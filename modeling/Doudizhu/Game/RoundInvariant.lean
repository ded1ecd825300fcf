import Doudizhu.Game.RoundMoves

/-! # The state machine of a round

What each phase says of the fields, by turns of the calling, by the trick on the table
and by the hands.  Every move keeps it, so it holds in every state a round reaches, and
with it no access of the operations can fail.
-/

namespace Doudizhu.Game

variable {ρ : Type} {shuffler : Shuffler ρ} {now : Time}

/-! ## The invariant -/

structure CallingInv (log : DealLog) (round : GameRound) : Prop where
  turn : round.callCount = round.currentSeat
  early : round.currentSeat < 3
  seats : log.calls.map Prod.fst = List.range round.callCount
  highest : round.lastCaller = log.callers.max?
  last : round.lastCaller = log.callers.getLast?
  noLandlord : round.landlordSeat = none
  noWinner : round.winnerSeat = none
  notStarted : round.playStartedAt = none
  noPlay : round.lastPlay = none
  noLeader : round.lastPlaySeat = none
  noCards : round.lastPlayCards = []
  noPasses : round.passCount = 0
  nothingPlayed : log.played = []
  dealt : ∀ seat, (round.deal.hands seat).length = 17
  bottom : round.deal.bottomCards.length = 3

/-- The landlord is the last of the three seats that called. -/
structure LandlordInv (log : DealLog) (round : GameRound) : Prop where
  seats : log.calls.map Prod.fst = [0, 1, 2]
  last : round.landlordSeat = log.callers.getLast?
  seated : ∃ seat : Fin 3, round.landlordSeat = some seat.val
  started : round.playStartedAt.isSome

/-- A play is on the table, and `passCount` seats have passed on it. -/
structure TrickInv (round : GameRound) (leader : Fin 3) : Prop where
  play : round.lastPlay = some (CardRules.analyze round.lastPlayCards)
  valid : (CardRules.analyze round.lastPlayCards).pattern ≠ .invalid
  led : round.lastPlaySeat = some leader.val
  cards : round.lastPlayCards ≠ []

/-- Nothing is on the table. -/
structure LeadInv (round : GameRound) : Prop where
  noPlay : round.lastPlay = none
  noLeader : round.lastPlaySeat = none
  noCards : round.lastPlayCards = []
  noPasses : round.passCount = 0

structure FollowInv (round : GameRound) (leader : Fin 3) : Prop extends TrickInv round leader where
  passes : round.passCount ≤ 1
  turn : round.currentSeat = (leader + 1 + round.passCount) % 3

structure PlayingInv (log : DealLog) (round : GameRound) : Prop extends LandlordInv log round where
  turn : round.currentSeat < 3
  noWinner : round.winnerSeat = none
  holding : ∀ seat, round.deal.hands seat ≠ []
  table : LeadInv round ∨ ∃ leader, FollowInv round leader

structure SettledInv (log : DealLog) (round : GameRound) : Prop extends LandlordInv log round where
  settled : ∃ winner : Fin 3, TrickInv round winner ∧ round.winnerSeat = some winner.val ∧
    round.currentSeat = winner ∧ ∀ seat, round.deal.hands seat = [] ↔ seat = winner

def RoundInv (log : DealLog) (round : GameRound) : Prop :=
  match round.phase with
  | .waitingPlayers => False
  | .callLandlord => CallingInv log round
  | .playCards => PlayingInv log round
  | .settled => SettledInv log round

section Phases

variable {log : DealLog} {round : GameRound}

theorem RoundInv.calling (holds : RoundInv log round) (phase : round.phase = .callLandlord) :
    CallingInv log round := by
  simpa only [RoundInv, phase] using holds

theorem RoundInv.playing (holds : RoundInv log round) (phase : round.phase = .playCards) :
    PlayingInv log round := by
  simpa only [RoundInv, phase] using holds

theorem RoundInv.settled (holds : RoundInv log round) (phase : round.phase = .settled) :
    SettledInv log round := by
  simpa only [RoundInv, phase] using holds

end Phases

/-! ## The callers -/

/-- In an ascending list the last element is the greatest. -/
theorem max?_eq_getLast? {numbers : List Nat} (ascending : numbers.Pairwise (· < ·)) :
    numbers.max? = numbers.getLast? := by
  cases numbers using List.reverseRecOn with
  | nil => rfl
  | append_singleton before last =>
    rw [List.getLast?_concat, List.max?_eq_some_iff]
    refine ⟨by simp, ?_⟩
    intro number member
    obtain earlier | same := List.mem_append.mp member
    · exact ((List.pairwise_append.mp ascending).2.2 number earlier last (by simp)).le
    · rw [List.mem_singleton.mp same]

/-- The callers are some of the seats that answered, in the same order. -/
theorem callers_sublist (log : DealLog) : log.callers.Sublist (log.calls.map Prod.fst) := by
  unfold DealLog.callers
  induction log.calls with
  | nil => exact .slnil
  | cons call calls inductionHypothesis =>
    cases answer : call.2 with
    | true => simpa [answer] using inductionHypothesis
    | false => simpa [answer] using inductionHypothesis.cons _

theorem callers_eq_nil {log : DealLog} :
    log.callers = [] ↔ ∀ call ∈ log.calls, call.2 = false := by
  simp [DealLog.callers, List.filterMap_eq_nil_iff]

theorem callers_max? {log : DealLog} {number : Nat}
    (seats : log.calls.map Prod.fst = List.range number) :
    log.callers.max? = log.callers.getLast? :=
  max?_eq_getLast? ((seats ▸ List.pairwise_lt_range).sublist (callers_sublist log))

theorem callers_call (log : DealLog) (seat : Nat) (called : Bool) :
    (DealLog.callers { log with calls := log.calls ++ [(seat, called)] }).getLast? =
      if called then some seat else log.callers.getLast? := by
  cases called <;> simp [DealLog.callers]

/-- A call that leaves a caller, or leaves the calling open, is only noted. -/
theorem record_call {log : DealLog} {seat : Nat} {called : Bool}
    (noted : log.calls.length + 1 ≠ 3 ∨
      (if called then some seat else log.callers.getLast?) ≠ none) :
    log.record (.callLandlord seat called) =
      { log with calls := log.calls ++ [(seat, called)] } := by
  simp only [DealLog.record]
  refine if_neg ?_
  rintro ⟨third, declined⟩
  obtain early | wanted := noted
  · exact early (by simpa using third)
  · apply wanted
    rw [← callers_call log seat called, callers_eq_nil.mpr declined]
    rfl

theorem record_redeal {log : DealLog} {seat : Nat} (third : log.calls.length + 1 = 3)
    (unwanted : log.callers = []) : log.record (.callLandlord seat false) = {} := by
  simp only [DealLog.record]
  refine if_pos ⟨by simpa using third, ?_⟩
  intro call member
  obtain earlier | same := List.mem_append.mp member
  · exact callers_eq_nil.mp unwanted call earlier
  · rw [List.mem_singleton.mp same]

/-! ## The moves keep it -/

theorem roundInv_start (round : GameRound) (random : ρ) :
    RoundInv {} (round.start shuffler random).1 where
  turn := rfl
  early := Nat.zero_lt_succ 2
  seats := rfl
  highest := rfl
  last := rfl
  noLandlord := rfl
  noWinner := rfl
  notStarted := rfl
  noPlay := rfl
  noLeader := rfl
  noCards := rfl
  noPasses := rfl
  nothingPlayed := rfl
  dealt := deal_hand_length shuffler random
  bottom := deal_bottomCards_length shuffler random

theorem CallingInv.calls_length {log : DealLog} {round : GameRound}
    (holds : CallingInv log round) : log.calls.length = round.callCount := by
  have lengths := congrArg List.length holds.seats
  simpa using lengths

theorem CallingInv.callers_nil {log : DealLog} {round : GameRound} (holds : CallingInv log round)
    (unwanted : round.lastCaller = none) : log.callers = [] := by
  rw [← List.getLast?_eq_none_iff, ← holds.last, unwanted]

/-- The seats that have answered after one more call. -/
theorem CallingInv.seats_snoc {log : DealLog} {round : GameRound} (holds : CallingInv log round)
    (called : Bool) :
    (log.calls ++ [(round.currentSeat, called)]).map Prod.fst =
      List.range (round.callCount + 1) := by
  rw [List.map_append, holds.seats, List.range_succ, ← holds.turn]
  rfl

theorem roundInv_move {log : DealLog} {before after : RoundState ρ} {move : RoundOp}
    (holds : RoundInv log before.round) (moved : Move shuffler now before move after) :
    RoundInv (log.record move) after.round := by
  cases moved with
  -- one of the first two seats answers
  | @call round random called phase early =>
    have calling : CallingInv log round := holds.calling phase
    have count := calling.calls_length
    have turn := calling.turn
    have seated := calling.early
    rw [record_call (.inl (by omega))]
    have caller : (if called then some round.currentSeat else round.lastCaller) =
        (DealLog.callers { log with
          calls := log.calls ++ [(round.currentSeat, called)] }).getLast? := by
      rw [callers_call, calling.last]
    simp only [RoundInv, phase]
    exact
      { calling with
        turn := by show round.callCount + 1 = (round.currentSeat + 1) % 3; omega
        early := Nat.mod_lt _ (by decide)
        seats := calling.seats_snoc called
        highest := caller.trans (callers_max? (calling.seats_snoc called)).symm
        last := caller }
  -- the third seat answers, and nobody has called
  | @redeal round random phase third unwanted =>
    have calling : CallingInv log round := holds.calling phase
    rw [record_redeal (calling.calls_length ▸ third) (calling.callers_nil unwanted)]
    exact roundInv_start round random
  -- the third seat answers: the last caller takes the bottom cards
  | @landlord round random called landlord phase third wanted =>
    have calling : CallingInv log round := holds.calling phase
    have caller : (DealLog.callers { log with
          calls := log.calls ++ [(round.currentSeat, called)] }).getLast? = some landlord.val := by
      rw [callers_call, ← calling.last, wanted]
    rw [record_call (.inr (by rw [← calling.last, wanted]; exact Option.some_ne_none _))]
    have two : round.callCount = 2 := by omega
    refine
      { seats := ?_
        last := caller.symm
        seated := ⟨landlord, rfl⟩
        started := rfl
        turn := landlord.isLt
        noWinner := calling.noWinner
        holding := ?_
        table := .inl ⟨rfl, rfl, calling.noCards, rfl⟩ }
    · rw [calling.seats_snoc called, two]
      rfl
    · intro seat empty
      have size := calling.dealt seat
      simp only [Function.update_apply] at empty
      split at empty
      · next same => rw [same, (List.append_eq_nil_iff.mp empty).1] at size; cases size
      · rw [empty] at size; cases size
  -- the cards lie on the table, and some are left in the hand
  | @play round random seat cards remaining phase own nonempty valid beats removed left =>
    have playing : PlayingInv log round := holds.playing phase
    simp only [RoundInv, phase]
    refine
      { playing with
        turn := Nat.mod_lt _ (by decide)
        holding := ?_
        table := .inr ⟨seat, ⟨⟨rfl, valid, rfl, nonempty⟩, Nat.zero_le 1, rfl⟩⟩ }
    intro other
    simp only [Function.update_apply]
    split
    · exact left
    · exact playing.holding other
  -- no card is left, and the other hands are what they were
  | @finish round random seat cards phase own nonempty valid beats removed =>
    have playing : PlayingInv log round := holds.playing phase
    refine
      { playing with
        settled := ⟨seat, ⟨rfl, valid, rfl, nonempty⟩, rfl, own, ?_⟩ }
    intro other
    simp only [Function.update_apply]
    split
    · next same => simp [same]
    · next different => simp [playing.holding other, different]
  -- the first of the two others passes
  | @pass round random phase following other first =>
    have playing : PlayingInv log round := holds.playing phase
    simp only [RoundInv, phase]
    obtain lead | ⟨leader, follow⟩ := playing.table
    · exact absurd lead.noPlay following
    · have passes := follow.passes
      have turn := follow.turn
      exact
        { playing with
          turn := Nat.mod_lt _ (by decide)
          table := .inr ⟨leader, { follow with
            passes := by show round.passCount + 1 ≤ 1; omega
            turn := by
              show (round.currentSeat + 1) % 3 = (leader + 1 + (round.passCount + 1)) % 3
              omega }⟩ }
  -- the second passes too, so the leader leads again
  | @endTrick round random leader phase following other second led =>
    have playing : PlayingInv log round := holds.playing phase
    simp only [RoundInv, phase]
    obtain lead | ⟨seat, follow⟩ := playing.table
    · exact absurd lead.noPlay following
    · have same : seat.val = leader := Option.some.inj (follow.led.symm.trans led)
      exact
        { playing with
          turn := same ▸ seat.isLt
          table := .inl ⟨rfl, rfl, rfl, rfl⟩ }

/-! ## No access fails -/

/-- A call goes on record with a seat that has answered. -/
theorem CallingInv.caller_lt {log : DealLog} {round : GameRound} (holds : CallingInv log round)
    {called : Bool} {landlord : Nat}
    (wanted : (if called then some round.currentSeat else round.lastCaller) = some landlord) :
    landlord < 3 := by
  cases called with
  | true =>
    cases wanted
    exact holds.early
  | false =>
    rw [if_neg Bool.false_ne_true, holds.last] at wanted
    have answered := (callers_sublist log).subset (List.mem_of_getLast? wanted)
    rw [holds.seats, List.mem_range, holds.turn] at answered
    exact answered.trans holds.early

theorem callLandlord_ok {log : DealLog} {round : GameRound} (holds : RoundInv log round)
    (seat : Nat) (called : Bool) (random : ρ) :
    ∃ answer, round.callLandlord shuffler seat called now random = .ok answer := by
  unfold GameRound.callLandlord
  split
  · exact ⟨_, rfl⟩
  · next guard =>
    obtain ⟨calling, own⟩ := not_or.mp guard
    rw [not_not] at calling own
    subst own
    dsimp only
    split
    · split
      · exact ⟨_, rfl⟩
      · next landlord wanted =>
        have inside := (holds.calling calling).caller_lt wanted
        simp only [GameRound.hand, GameRound.setHand, inside, dite_true]
        exact ⟨_, rfl⟩
    · exact ⟨_, rfl⟩

theorem playCards_ok {log : DealLog} {round : GameRound} (holds : RoundInv log round)
    (seat : Nat) (cards : List Card) : ∃ answer, round.playCards seat cards = .ok answer := by
  unfold GameRound.playCards
  split
  · exact ⟨_, rfl⟩
  · next guard =>
    obtain ⟨playing, guard⟩ := not_or.mp guard
    obtain ⟨own, nonempty⟩ := not_or.mp guard
    rw [not_not] at playing own
    have inside : seat < 3 := own ▸ (holds.playing playing).turn
    dsimp only
    split
    · exact ⟨_, rfl⟩
    · split
      · exact ⟨_, rfl⟩
      · simp only [GameRound.hand, GameRound.setHand, inside, dite_true, bind, Except.bind]
        split
        · exact ⟨_, rfl⟩
        · split <;> exact ⟨_, rfl⟩

theorem pass_ok {log : DealLog} {round : GameRound} (holds : RoundInv log round) (seat : Nat) :
    ∃ answer, round.pass seat = .ok answer := by
  unfold GameRound.pass
  split
  · exact ⟨_, rfl⟩
  · next guard =>
    obtain ⟨playing, guard⟩ := not_or.mp guard
    obtain ⟨own, guard⟩ := not_or.mp guard
    obtain ⟨following, other⟩ := not_or.mp guard
    rw [not_not] at playing
    dsimp only
    split
    · obtain lead | ⟨leader, follow⟩ := (holds.playing playing).table
      · exact absurd lead.noPlay following
      · rw [follow.led]
        exact ⟨_, rfl⟩
    · exact ⟨_, rfl⟩

/-- When `timeout` plays a card, the seat it plays for is one of the three. -/
theorem RoundInv.seated {log : DealLog} {round : GameRound} (holds : RoundInv log round)
    {cards : List Card} (lead : round.timeoutCall = .playCards round.currentSeat cards) :
    round.currentSeat < 3 := by
  unfold GameRound.timeoutCall at lead
  cases phase : round.phase with
  | callLandlord | waitingPlayers | settled => simp [phase] at lead
  | playCards => exact (holds.playing phase).turn

/-- A settled round refuses everything and stays as it is. -/
theorem exec_settled {state : RoundState ρ} (settled : state.round.phase = .settled)
    (op : RoundOp) : op.exec shuffler now state = .ok (false, state) := by
  cases op <;>
    simp [RoundOp.exec, GameRound.callLandlord, GameRound.playCards, GameRound.pass,
      GameRound.timeout, settled, bind, Except.bind]

/-- Only a settled round leaves `timeout` without a call. -/
theorem RoundInv.idle {log : DealLog} {round : GameRound} (holds : RoundInv log round)
    (idle : round.timeoutCall = .timeout) : round.phase = .settled := by
  unfold GameRound.timeoutCall at idle
  cases phase : round.phase with
  | settled => rfl
  | waitingPlayers => simp [RoundInv, phase] at holds
  | callLandlord => simp [phase] at idle
  | playCards =>
    simp only [phase] at idle
    split at idle <;> cases idle

theorem exec_ok {log : DealLog} {state : RoundState ρ} (holds : RoundInv log state.round)
    (op : RoundOp) : ∃ answer, op.exec shuffler now state = .ok answer := by
  by_cases settled : state.round.phase = .settled
  · exact ⟨_, exec_settled settled op⟩
  have direct : ∀ op : RoundOp, op ≠ .timeout →
      ∃ answer, op.exec shuffler now state = .ok answer := by
    intro op notTimeout
    cases op with
    | callLandlord seat called =>
      obtain ⟨answer, done⟩ := callLandlord_ok holds seat called state.random
      exact ⟨_, ExceptLoop.bind_ok.mpr ⟨answer, done, rfl⟩⟩
    | playCards seat cards =>
      obtain ⟨answer, done⟩ := playCards_ok holds seat cards
      exact ⟨_, ExceptLoop.bind_ok.mpr ⟨answer, done, rfl⟩⟩
    | pass seat =>
      obtain ⟨answer, done⟩ := pass_ok holds seat
      exact ⟨_, ExceptLoop.bind_ok.mpr ⟨answer, done, rfl⟩⟩
    | timeout => exact absurd rfl notTimeout
  by_cases timeout : op = .timeout
  · subst timeout
    rw [exec_timeout fun _ => holds.seated]
    exact direct _ fun idle => settled (holds.idle idle)
  · exact direct op timeout

/-! ## Landlords and settling -/

theorem RoundInv.landlord_iff {log : DealLog} {round : GameRound} (holds : RoundInv log round)
    (unsettled : round.phase ≠ .settled) :
    round.landlordSeat.isSome ↔ round.phase = .playCards := by
  cases phase : round.phase with
  | waitingPlayers => simp [RoundInv, phase] at holds
  | settled => exact absurd phase unsettled
  | callLandlord => simp [(holds.calling phase).noLandlord]
  | playCards =>
    obtain ⟨seat, landlord⟩ := (holds.playing phase).seated
    simp [landlord]

/-- Once found, the landlord stays. -/
theorem landlord_move {log : DealLog} {before after : RoundState ρ} {move : RoundOp}
    (holds : RoundInv log before.round) (found : before.round.landlordSeat.isSome)
    (moved : Move shuffler now before move after) :
    after.round.landlordSeat = before.round.landlordSeat := by
  cases moved with
  | call phase | redeal phase | landlord phase =>
    have absent := congrArg Option.isSome (holds.calling phase).noLandlord
    exact absurd (absent.symm.trans found) Bool.false_ne_true
  | play | finish | pass | endTrick => rfl

/-- Only a play settles a round, and the player who makes it has no card left. -/
theorem settled_move {before after : RoundState ρ} {move : RoundOp}
    (moved : Move shuffler now before move after) (settled : after.round.phase = .settled) :
    before.round.phase = .playCards ∧ ∃ seat cards, move = .playCards seat cards := by
  cases moved with
  | call phase | play phase | pass phase | endTrick phase =>
    exact absurd (phase.symm.trans settled) (by decide)
  | redeal | landlord => cases settled
  | finish phase => exact ⟨phase, _, _, rfl⟩

/-! ## Runs -/

theorem roundInv_step {log : DealLog} {before after : RoundState ρ} {call : RoundCall}
    (holds : RoundInv log before.round) (step : RoundStep shuffler before call after) :
    RoundInv (log.extend call) after.round := by
  rw [DealLog.extend]
  obtain ⟨accepted, move⟩ | ⟨refused, rfl⟩ := step.cases
  · rw [if_pos accepted]
    exact roundInv_move holds move
  · rw [refused]
    exact holds

/-- Whatever is called, the calls all return, and the invariant holds at the end. -/
theorem run_ok (shuffler : Shuffler ρ) {log : DealLog} {state : RoundState ρ}
    (holds : RoundInv log state.round) (calls : List (RoundOp × Time)) :
    ∃ trace finish, state.run shuffler calls = .ok (trace, finish) ∧
      RoundInv (trace.foldl DealLog.extend log) finish.round := by
  refine (RoundState.worksOff shuffler).goes (fun trace (state : RoundState ρ) =>
    RoundInv (trace.foldl DealLog.extend log) state.round) ?_ holds calls
  intro trace before ⟨op, now⟩ holds
  obtain ⟨⟨accepted, next⟩, done⟩ : ∃ answer, op.exec shuffler now before = .ok answer :=
    exec_ok holds op
  refine ⟨accepted, next, done, ?_⟩
  rw [List.foldl_append]
  exact roundInv_step holds ⟨done, rfl⟩

theorem run_start (shuffler : Shuffler ρ) (round : GameRound) (random : ρ)
    (calls : List (RoundOp × Time)) :
    ∃ trace finish, (RoundState.start shuffler round random).run shuffler calls = .ok (trace, finish) ∧
      RoundInv (DealLog.ofTrace trace) finish.round := by
  have fresh : RoundInv {} (RoundState.start shuffler round random).round :=
    roundInv_start round random
  exact run_ok shuffler fresh calls

/-- The rule for rounds: what holds of a fresh deal and is kept by every move of a sound
    round, with the log the move leaves, holds wherever calls lead. -/
theorem run_invariant (Holds : DealLog → GameRound → Prop) {round : GameRound} {random : ρ}
    {calls : List (RoundOp × Time)} {trace : List RoundCall} {finish : RoundState ρ}
    (ran : (RoundState.start shuffler round random).run shuffler calls = .ok (trace, finish))
    (dealt : Holds {} (round.start shuffler random).1)
    (kept : ∀ log now before move after, RoundInv log before.round → Holds log before.round →
      Move shuffler now before move after → Holds (log.record move) after.round) :
    Holds (DealLog.ofTrace trace) finish.round := by
  refine ((RoundState.run_steps ran).history (fun trace (state : RoundState ρ) =>
    RoundInv (DealLog.ofTrace trace) state.round ∧ Holds (DealLog.ofTrace trace) state.round)
    ⟨roundInv_start round random, dealt⟩ ?_).2
  intro trace before call after _ sound step
  rw [DealLog.ofTrace_snoc]
  refine ⟨roundInv_step sound.1 step, ?_⟩
  rw [DealLog.extend]
  obtain ⟨accepted, move⟩ | ⟨refused, rfl⟩ := step.cases
  · rw [if_pos accepted]
    exact kept _ _ _ _ _ sound.1 sound.2 move
  · rw [refused]
    exact sound.2

/-- In every state that calls lead to after `start`, the invariant holds, and a round
    that has settled changes no more. -/
theorem round_state_machine (shuffler : Shuffler ρ) (round : GameRound) (random : ρ)
    (calls : List (RoundOp × Time)) :
    ∃ trace finish, (RoundState.start shuffler round random).run shuffler calls = .ok (trace, finish) ∧
      RoundInv (DealLog.ofTrace trace) finish.round ∧
      (finish.round.phase = .settled →
        ∀ op now, RoundOp.exec shuffler op now finish = .ok (false, finish)) := by
  obtain ⟨trace, finish, ran, holds⟩ := run_start shuffler round random calls
  exact ⟨trace, finish, ran, holds, fun settled op now => exec_settled settled op⟩

end Doudizhu.Game
