import Doudizhu.Game.RoundProgress

/-! # An abandoned round

What `timeout` makes of a round that nobody plays any more: the seat with the lead wins,
one card at a time.
-/

namespace Doudizhu.Game

variable {ρ : Type} {shuffler : Shuffler ρ} {now : Time}

/-- The seat that the others have to beat, or that has the lead. -/
def GameRound.leader (round : GameRound) : Option Nat :=
  if round.lastPlay.isSome then round.lastPlaySeat else some round.currentSeat

/-- The timeouts until a leader with `held` cards has played them all: the passes that the
    trick still takes, and three for each card but the last. -/
def GameRound.turnsLeft (round : GameRound) (held : Nat) : Nat :=
  (if round.lastPlay.isSome then 2 - round.passCount else 0) + 3 * held - 2

/-- The accepted plays: who played what. -/
def playsOf (trace : List RoundCall) : List (Nat × List Card) :=
  trace.filterMap fun call =>
    match call.accepted, call.move with
    | true, .playCards seat cards => some (seat, cards)
    | _, _ => none

/-- The round is in play, and this is what the leader holds. -/
structure Leads (leader : Fin 3) (cards : List Card) (round : GameRound) : Prop where
  phase : round.phase = .playCards
  leads : round.leader = some leader.val
  hand : round.deal.hands leader = cards

/-! ## One timeout -/

/-- What one timeout does. -/
inductive Turn (leader : Fin 3) (cards : List Card) (before : GameRound) :
    RoundOp → GameRound → Prop where
  | pass {after : GameRound} {seat : Nat} : Leads leader cards after →
      after.deal.hands = before.deal.hands →
      after.turnsLeft cards.length + 1 = before.turnsLeft cards.length →
      Turn leader cards before (.pass seat) after
  | play {after : GameRound} {card : Card} {rest : List Card} : cards = card :: rest →
      Leads leader rest after →
      after.deal.hands = Function.update before.deal.hands leader rest →
      after.turnsLeft rest.length + 1 = before.turnsLeft cards.length →
      Turn leader cards before (.playCards leader [card]) after
  | finish {after : GameRound} {card : Card} : cards = [card] → after.phase = .settled →
      after.winnerSeat = some leader.val →
      after.deal.hands = Function.update before.deal.hands leader [] →
      before.turnsLeft cards.length = 1 →
      Turn leader cards before (.playCards leader [card]) after

/-- On an open trick the others pass, and the second pass gives the lead back. -/
theorem pass_turn {leader : Fin 3} {cards : List Card} {before after : RoundState ρ} {seat : Nat}
    (follow : FollowInv before.round leader) (leads : Leads leader cards before.round)
    (held : cards ≠ []) (moved : Move shuffler now before (.pass seat) after) :
    Turn leader cards before.round (.pass seat) after.round := by
  have positive := List.length_pos_iff.mpr held
  have opened : before.round.lastPlay.isSome = true := by simp [follow.play]
  cases moved with
  | @pass round random phase following other early =>
    have passes := follow.passes
    refine .pass ⟨phase, ?_, leads.hand⟩ rfl ?_
    · simpa [GameRound.leader, opened] using follow.led
    · simp only [GameRound.turnsLeft, if_pos opened] at passes early ⊢
      omega
  | @endTrick round random first phase following other second led =>
    obtain rfl : first = leader := Option.some.inj (led.symm.trans follow.led)
    refine .pass ⟨phase, by simp [GameRound.leader], leads.hand⟩ rfl ?_
    simp only [GameRound.turnsLeft, if_pos opened, Option.isSome_none] at second ⊢
    rw [if_neg (by decide)]
    omega

/-- With the lead the leader plays the card in front. -/
theorem play_turn {leader : Fin 3} {card : Card} {rest : List Card} {before after : RoundState ρ}
    (lead : LeadInv before.round) (leads : Leads leader (card :: rest) before.round)
    (moved : Move shuffler now before (.playCards leader [card]) after) :
    Turn leader (card :: rest) before.round (.playCards leader [card]) after.round := by
  have left : before.round.turnsLeft (rest.length + 1) = 3 * rest.length + 1 := by
    simp only [GameRound.turnsLeft, lead.noPlay, Option.isSome_none]
    rw [if_neg (by decide)]
    omega
  generalize call : RoundOp.playCards leader.val [card] = move at moved
  cases moved with
  | call | redeal | landlord | pass | endTrick => cases call
  | @play round random seat cards remaining phase own nonempty valid beats removed holding =>
    obtain ⟨same, rfl⟩ := RoundOp.playCards.inj call
    obtain rfl : leader = seat := Fin.ext same
    rw [leads.hand, removeCards_single] at removed
    cases removed
    have positive := List.length_pos_iff.mpr holding
    refine .play rfl ⟨phase, by simp [GameRound.leader], by simp⟩ rfl ?_
    rw [List.length_cons, left]
    simp only [GameRound.turnsLeft, Option.isSome_some, if_true]
    omega
  | @finish round random seat cards phase own nonempty valid beats removed =>
    obtain ⟨same, rfl⟩ := RoundOp.playCards.inj call
    obtain rfl : leader = seat := Fin.ext same
    rw [leads.hand, removeCards_single] at removed
    cases removed
    exact .finish rfl rfl rfl rfl left

/-- Every timeout is accepted, and is a turn. -/
theorem timeout_turn (shuffler : Shuffler ρ) {log : DealLog} {leader : Fin 3} {cards : List Card}
    {state : RoundState ρ} (holds : RoundInv log state.round) (leads : Leads leader cards state.round)
    (now : Time) :
    ∃ next, RoundOp.timeout.exec shuffler now state = .ok (true, next) ∧
      Turn leader cards state.round state.round.timeoutCall next.round := by
  have playing := holds.playing leads.phase
  have held : cards ≠ [] := leads.hand ▸ playing.holding leader
  obtain ⟨next, done⟩ : ∃ next, RoundOp.timeout.exec shuffler now state = .ok (true, next) :=
    timeout_accepted holds (by rw [leads.phase]; decide)
  refine ⟨next, done, ?_⟩
  obtain ⟨_, moved⟩ | ⟨refused, _⟩ := exec_cases done
  · rw [RoundOp.resolve] at moved
    obtain lead | ⟨first, follow⟩ := playing.table
    · have own : state.round.currentSeat = leader := by
        simpa [GameRound.leader, lead.noPlay] using leads.leads
      obtain ⟨card, rest, rfl⟩ := List.exists_cons_of_ne_nil held
      have call : state.round.timeoutCall = .playCards leader [card] := by
        simp [GameRound.timeoutCall, leads.phase, lead.noPlay, own, leads.hand]
      rw [call] at moved ⊢
      exact play_turn lead leads moved
    · obtain rfl : first = leader := by
        have same := leads.leads
        simp only [GameRound.leader, follow.play, Option.isSome_some, if_true, follow.led] at same
        exact Fin.ext (Option.some.inj same)
      have call : state.round.timeoutCall = .pass state.round.currentSeat := by
        simp [GameRound.timeoutCall, leads.phase, follow.play, follow.other]
      rw [call] at moved ⊢
      exact pass_turn follow leads held moved
  · cases refused

/-! ## All timeouts -/

theorem turnsLeft_pos {log : DealLog} {round : GameRound} {leader : Fin 3} {cards : List Card}
    (holds : RoundInv log round) (leads : Leads leader cards round) :
    0 < round.turnsLeft cards.length := by
  have playing := holds.playing leads.phase
  have positive := List.length_pos_iff.mpr (leads.hand ▸ playing.holding leader)
  unfold GameRound.turnsLeft
  obtain lead | ⟨first, follow⟩ := playing.table
  · omega
  · omega

/-- The leader has won, and has played nothing but `cards`, one by one. -/
structure PlayedOut (leader : Fin 3) (cards : List Card) (after : GameRound)
    (trace : List RoundCall) : Prop where
  settled : after.phase = .settled
  winner : after.winnerSeat = some leader.val
  plays : playsOf trace = cards.map fun card => (leader.val, [card])

theorem timeouts_run (shuffler : Shuffler ρ) (times : List Time) {log : DealLog} {leader : Fin 3}
    {cards : List Card} {state : RoundState ρ} (holds : RoundInv log state.round)
    (leads : Leads leader cards state.round)
    (few : times.length ≤ state.round.turnsLeft cards.length) :
    ∃ trace last, state.run shuffler (times.map fun now => (.timeout, now)) = .ok (trace, last) ∧
      (∀ call ∈ trace, call.accepted = true) ∧
      (∀ seat, seat ≠ leader → last.round.deal.hands seat = state.round.deal.hands seat) ∧
      (times.length < state.round.turnsLeft cards.length → last.round.phase = .playCards) ∧
      (times.length = state.round.turnsLeft cards.length →
        PlayedOut leader cards last.round trace) := by
  induction times generalizing log cards state with
  | nil =>
    refine ⟨[], state, rfl, nofun, fun _ _ => rfl, fun _ => leads.phase, ?_⟩
    intro none
    exact absurd none (turnsLeft_pos holds leads).ne
  | cons now times inductionHypothesis =>
    obtain ⟨next, done, turn⟩ := timeout_turn shuffler holds leads now
    have step : RoundStep shuffler state ⟨.timeout, now, true, state.round.timeoutCall⟩ next :=
      ⟨done, rfl⟩
    have sound := roundInv_step holds step
    rw [List.length_cons] at few ⊢
    -- one turn, and then the rest of the timeouts
    have ahead : ∀ {trace last}, next.run shuffler (times.map fun now => (.timeout, now)) =
        .ok (trace, last) → state.run shuffler ((now :: times).map fun now => (.timeout, now)) =
          .ok (⟨.timeout, now, true, state.round.timeoutCall⟩ :: trace, last) := by
      intro trace last ran
      exact (RoundState.worksOff shuffler).cons_ok.mpr ⟨true, next, trace, done, ran, rfl⟩
    generalize state.round.timeoutCall = call at turn ahead
    cases turn with
    | @pass _ seat after hands fewer =>
      obtain ⟨trace, last, ran, accepted, others, going, settles⟩ :=
        inductionHypothesis sound after (by omega)
      refine ⟨_, last, ahead ran, ?_, fun seat other => (others seat other).trans (by rw [hands]),
        fun early => going (by omega), fun exact => ?_⟩
      · simpa using accepted
      · obtain ⟨settled, winner, plays⟩ := settles (by omega)
        exact ⟨settled, winner, by simpa [playsOf] using plays⟩
    | @play _ card rest split after hands fewer =>
      obtain ⟨trace, last, ran, accepted, others, going, settles⟩ :=
        inductionHypothesis sound after (by omega)
      refine ⟨_, last, ahead ran, ?_, ?_, fun early => going (by omega), fun exact => ?_⟩
      · simpa using accepted
      · intro seat other
        rw [others seat other, hands, Function.update_of_ne other]
      · obtain ⟨settled, winner, plays⟩ := settles (by omega)
        exact ⟨settled, winner, by simpa [playsOf, split] using plays⟩
    | @finish _ card only settled winner hands one =>
      obtain rfl : times = [] := List.eq_nil_of_length_eq_zero (by omega)
      refine ⟨_, next, ahead rfl, by simp, ?_, fun early => by simp [one] at early, fun _ => ?_⟩
      · intro seat other
        rw [hands, Function.update_of_ne other]
      · exact ⟨settled, winner, by simp [playsOf, only]⟩

/-- From every state of play that a round reaches: the timeouts are all accepted, and after
    exactly `turnsLeft` of them the leader has won, with its cards played one by one from the
    front, and nothing else played. -/
theorem abandoned_round (shuffler : Shuffler ρ) (round : GameRound) (random : ρ)
    (calls : List (RoundOp × Time)) :
    ∃ trace finish,
      (RoundState.start shuffler round random).run shuffler calls = .ok (trace, finish) ∧
      (finish.round.phase = .playCards → ∃ leader : Fin 3, finish.round.leader = some leader.val ∧
        ∀ times : List Time,
          times.length ≤ finish.round.turnsLeft (finish.round.deal.hands leader).length →
          ∃ later last,
            finish.run shuffler (times.map fun now => (.timeout, now)) = .ok (later, last) ∧
            (∀ call ∈ later, call.accepted = true) ∧
            (∀ seat, seat ≠ leader →
              last.round.deal.hands seat = finish.round.deal.hands seat) ∧
            (times.length < finish.round.turnsLeft (finish.round.deal.hands leader).length →
              last.round.phase = .playCards) ∧
            (times.length = finish.round.turnsLeft (finish.round.deal.hands leader).length →
              last.round.phase = .settled ∧ last.round.winnerSeat = some leader.val ∧
              playsOf later =
                (finish.round.deal.hands leader).map fun card => (leader.val, [card]))) := by
  obtain ⟨trace, finish, ran, holds⟩ := run_start shuffler round random calls
  refine ⟨trace, finish, ran, ?_⟩
  intro phase
  have playing := holds.playing phase
  obtain ⟨leader, leads⟩ : ∃ leader : Fin 3, finish.round.leader = some leader.val := by
    obtain lead | ⟨leader, follow⟩ := playing.table
    · exact ⟨⟨_, playing.turn⟩, by simp [GameRound.leader, lead.noPlay]⟩
    · exact ⟨leader, by simp [GameRound.leader, follow.play, follow.led]⟩
  refine ⟨leader, leads, ?_⟩
  intro times few
  obtain ⟨later, last, ranOn, accepted, others, going, settles⟩ :=
    timeouts_run shuffler times holds ⟨phase, leads, rfl⟩ few
  refine ⟨later, last, ranOn, accepted, others, going, ?_⟩
  intro enough
  obtain ⟨settled, winner, plays⟩ := settles enough
  exact ⟨settled, winner, plays⟩

end Doudizhu.Game
