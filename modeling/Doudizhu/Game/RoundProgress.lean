import Doudizhu.Game.RoundInvariant

/-! # No round is stuck

`timeout` is always accepted before a round has settled, and once play has begun every
accepted call lowers `progress`: a play by three for each card and at most two for the
trick it starts, a pass by one.
-/

namespace Doudizhu.Game

variable {ρ : Type} {shuffler : Shuffler ρ} {now : Time}

/-! ## The automatic move -/

theorem callLandlord_accepted {log : DealLog} {round : GameRound} (holds : RoundInv log round)
    (calling : round.phase = .callLandlord) (called : Bool) (random : ρ) :
    ∃ next, round.callLandlord shuffler round.currentSeat called now random = .ok (true, next) := by
  obtain ⟨⟨accepted, next⟩, done⟩ :
      ∃ answer, round.callLandlord shuffler round.currentSeat called now random = .ok answer :=
    callLandlord_ok holds round.currentSeat called random
  obtain ⟨rfl, _⟩ | ⟨_, _, _, refused⟩ := callLandlord_cases done
  · exact ⟨next, done⟩
  · obtain otherPhase | otherSeat := refused
    · exact absurd calling otherPhase
    · exact absurd rfl otherSeat

theorem pass_accepted {log : DealLog} {round : GameRound} (holds : RoundInv log round)
    (playing : round.phase = .playCards) (following : round.lastPlay ≠ none)
    (other : round.lastPlaySeat ≠ some round.currentSeat) :
    ∃ next, round.pass round.currentSeat = .ok (true, next) := by
  obtain ⟨⟨accepted, next⟩, done⟩ := pass_ok holds round.currentSeat
  obtain ⟨rfl, _⟩ | ⟨_, _, refused⟩ := @pass_cases Unit .identity 0 _ _ () _ _ done
  · exact ⟨next, done⟩
  · simp [playing, following, other] at refused

/-- Any card held is a lead. -/
theorem playCards_lead {round : GameRound} {card : Card} {rest : List Card}
    (phase : round.phase = .playCards) (noPlay : round.lastPlay = none)
    (inside : round.currentSeat < 3)
    (hand : round.deal.hands ⟨round.currentSeat, inside⟩ = card :: rest) :
    ∃ next, round.playCards round.currentSeat [card] = .ok (true, next) := by
  unfold GameRound.playCards
  have guard : ¬ (round.phase ≠ .playCards ∨ round.currentSeat ≠ round.currentSeat ∨
      [card] = []) := by simp [phase]
  rw [if_neg guard]
  simp only [CardRules.analyze_singleton, noPlay, Option.any_none, GameRound.hand, inside,
    dite_true, hand, removeCards_single, GameRound.setHand, bind, Except.bind, reduceCtorEq,
    ite_false, Bool.false_eq_true]
  split <;> exact ⟨_, rfl⟩

/-- No seat faces its own play: the seat that led gets the lead back first. -/
theorem FollowInv.other {round : GameRound} {leader : Fin 3} (follow : FollowInv round leader) :
    round.lastPlaySeat ≠ some round.currentSeat := by
  rw [follow.led, follow.turn]
  intro same
  have passes := follow.passes
  have equal := Option.some.inj same
  omega

/-- Until a round has settled, `timeout` is accepted. -/
theorem timeout_accepted {log : DealLog} {state : RoundState ρ} (holds : RoundInv log state.round)
    (unsettled : state.round.phase ≠ .settled) :
    ∃ next, RoundOp.timeout.exec shuffler now state = .ok (true, next) := by
  rw [exec_timeout fun _ => holds.seated]
  obtain ⟨round, random⟩ := state
  unfold GameRound.timeoutCall
  cases phase : round.phase with
  | waitingPlayers => simp [RoundInv, phase] at holds
  | settled => exact absurd phase unsettled
  | callLandlord =>
    obtain ⟨next, done⟩ :
        ∃ next, round.callLandlord shuffler round.currentSeat false now random = .ok (true, next) :=
      callLandlord_accepted holds phase false random
    exact ⟨_, ExceptLoop.bind_ok.mpr ⟨_, done, rfl⟩⟩
  | playCards =>
    have playing : PlayingInv log round := holds.playing phase
    obtain lead | ⟨leader, follow⟩ := playing.table
    · have inside := playing.turn
      simp only [lead.noPlay, Option.isSome_none, Bool.false_eq_true, false_and, ite_false,
        inside, dite_true]
      cases hand : round.deal.hands ⟨round.currentSeat, inside⟩ with
      | nil => exact absurd hand (playing.holding _)
      | cons card rest =>
        obtain ⟨next, done⟩ := playCards_lead phase lead.noPlay inside hand
        exact ⟨_, ExceptLoop.bind_ok.mpr ⟨_, done, rfl⟩⟩
    · have following : round.lastPlay ≠ none := by simp [follow.play]
      rw [if_pos ⟨by simp [follow.play], follow.other⟩]
      obtain ⟨next, done⟩ := pass_accepted holds phase following follow.other
      exact ⟨_, ExceptLoop.bind_ok.mpr ⟨_, done, rfl⟩⟩

/-! ## The measure -/

def GameRound.handCards (round : GameRound) : Nat := round.deal.hands.cards.length

/-- Three for each card still held and, on an open trick, one for each pass it can take. -/
def GameRound.progress (round : GameRound) : Nat :=
  3 * round.handCards + if round.lastPlay.isSome then 2 - round.passCount else 0

theorem handCards_update (hands : Hands) (seat : Fin 3) (cards : List Card) :
    (Hands.cards (Function.update hands seat cards)).length + (hands seat).length =
      hands.cards.length + cards.length := by
  fin_cases seat <;> simp [Hands.cards, Function.update] <;> omega

/-- A play lowers the measure: each of its cards by three, the new trick raises it by two
    at most. -/
theorem progress_play {hands : Hands} {seat : Fin 3} {cards remaining : List Card}
    (nonempty : cards ≠ [])
    (removed : GameRound.removeCards (hands seat) cards = some remaining) :
    3 * (Hands.cards (Function.update hands seat remaining)).length + 2 <
      3 * hands.cards.length := by
  have moved := handCards_update hands seat remaining
  have split := (removeCards_perm removed).length_eq
  have some := List.length_pos_iff.mpr nonempty
  rw [List.length_append] at split
  omega

theorem progress_move {log : DealLog} {before after : RoundState ρ} {move : RoundOp}
    (holds : RoundInv log before.round) (playing : before.round.phase = .playCards)
    (moved : Move shuffler now before move after) :
    after.round.progress < before.round.progress := by
  have sound := holds.playing playing
  cases moved with
  | call phase | redeal phase | landlord phase => exact absurd (phase.symm.trans playing) (by decide)
  | @play round random seat cards remaining phase own nonempty valid beats removed left =>
    have lower := progress_play nonempty removed
    simp only [GameRound.progress, GameRound.handCards, Option.isSome_some, ite_true]
    omega
  | @finish round random seat cards phase own nonempty valid beats removed =>
    have lower := progress_play nonempty removed
    simp only [GameRound.progress, GameRound.handCards, Option.isSome_some, ite_true]
    omega
  | @pass round random phase following other first =>
    have set : round.lastPlay.isSome := Option.isSome_iff_ne_none.mpr following
    obtain lead | ⟨leader, follow⟩ := sound.table
    · exact absurd lead.noPlay following
    · have passes : round.passCount ≤ 1 := follow.passes
      simp only [GameRound.progress, GameRound.handCards, set, ite_true]
      omega
  | @endTrick round random leader phase following other second led =>
    have set : round.lastPlay.isSome := Option.isSome_iff_ne_none.mpr following
    simp only [GameRound.progress, GameRound.handCards, set, ite_true, Option.isSome_none,
      Bool.false_eq_true, ite_false]
    omega

/-- The measure starts at 162 at most: play begins with 54 cards in the hands. -/
theorem progress_le {log : DealLog} {before after : RoundState ρ} {move : RoundOp}
    (holds : RoundInv log before.round)
    (bounded : before.round.phase = .playCards → before.round.progress ≤ 162)
    (moved : Move shuffler now before move after) (playing : after.round.phase = .playCards) :
    after.round.progress ≤ 162 := by
  by_cases earlier : before.round.phase = .playCards
  · exact (progress_move holds earlier moved).le.trans (bounded earlier)
  cases moved with
  | @call round random called phase early => exact absurd playing earlier
  | redeal => cases playing
  | @landlord round random called landlord phase third wanted =>
    have calling : CallingInv log round := holds.calling phase
    have moved := handCards_update round.deal.hands landlord
      (round.deal.hands landlord ++ round.deal.bottomCards)
    have size : round.deal.hands.cards.length = 51 := by
      simp [Hands.cards, calling.dealt]
    have three := calling.bottom
    simp only [GameRound.progress, GameRound.handCards, Option.isSome_none, Bool.false_eq_true,
      ite_false]
    rw [List.length_append] at moved
    omega
  | play phase | finish phase | pass phase | endTrick phase => exact absurd phase earlier

/-! ## Runs -/

theorem progress_of_run {round : GameRound} {random : ρ} {calls : List (RoundOp × Time)}
    {trace : List RoundCall} {finish : RoundState ρ}
    (ran : (RoundState.start shuffler round random).run shuffler calls = .ok (trace, finish))
    (playing : finish.round.phase = .playCards) : finish.round.progress ≤ 162 := by
  refine run_invariant (fun _ round => round.phase = .playCards → round.progress ≤ 162) ran ?_ ?_
    playing
  · intro calling
    cases calling
  · intro log now before move after holds bounded moved playing
    exact progress_le holds bounded moved playing

/-- A round in which play has begun, whether it still goes on or not. -/
structure Begun (round : GameRound) : Prop where
  sound : ∃ log, RoundInv log round
  phase : round.phase = .playCards ∨ round.phase = .settled

theorem begun_move {before after : RoundState ρ} {move : RoundOp} (begun : Begun before.round)
    (moved : Move shuffler now before move after) :
    Begun after.round ∧ after.round.progress < before.round.progress := by
  obtain ⟨log, holds⟩ := begun.sound
  have playing : before.round.phase = .playCards := by
    obtain playing | settled := begun.phase
    · exact playing
    · cases moved with
      | call phase | redeal phase | landlord phase => exact absurd (phase.symm.trans settled) (by decide)
      | play phase | finish phase | pass phase | endTrick phase => exact phase
  refine ⟨⟨⟨_, roundInv_move holds moved⟩, ?_⟩, progress_move holds playing moved⟩
  cases moved with
  | call phase | redeal phase | landlord phase => exact absurd (phase.symm.trans playing) (by decide)
  | finish => exact .inr rfl
  | play phase | pass phase | endTrick phase => exact .inl phase

/-- Every accepted call of a run lowers the measure, so it bounds their number. -/
theorem accepted_le {start finish : RoundState ρ} {trace : List RoundCall}
    (run : Transition.Steps (RoundStep shuffler) start trace finish) (begun : Begun start.round) :
    trace.countP RoundCall.accepted + finish.round.progress ≤ start.round.progress := by
  refine run.bounded (fun state => Begun state.round) (fun state => state.round.progress) begun ?_ ?_
  · intro before call after begun step
    obtain ⟨_, moved⟩ | ⟨_, rfl⟩ := step.cases
    · exact (begun_move begun moved).1
    · exact begun
  · intro before call after begun step
    obtain ⟨accepted, moved⟩ | ⟨refused, rfl⟩ := step.cases
    · have lower := (begun_move begun moved).2
      rw [if_pos accepted]
      exact lower
    · simp [refused]

end Doudizhu.Game
