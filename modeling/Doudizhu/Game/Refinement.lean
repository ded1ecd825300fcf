import Doudizhu.Lib.Simulation
import Doudizhu.Game.LegalPlays
import Doudizhu.Game.RoundProgress
import Doudizhu.Game.Rules

/-! # Rounds play by the rules

`Represents` reads a `GameRound` as a table of the game: its phase, turn and trick, and the
hands with their order forgotten.  Every accepted call is then a move that the rules allow,
and every move that the rules allow is accepted.
-/

namespace Doudizhu.Game

open CardRules Rules

variable {ρ : Type} {shuffler : Shuffler ρ} {now : Time}

/-! ## Rounds as tables -/

/-- The cards of the three seats, in no order. -/
def GameRound.holdings (round : GameRound) (seat : Fin 3) : Multiset Card := round.deal.hands seat

structure Bidding (round : GameRound) (deal : Deal) (turn : Fin 3) (bidder : Option (Fin 3)) : Prop where
  phase : round.phase = .callLandlord
  seat : round.currentSeat = turn
  asked : round.callCount = turn
  caller : round.lastCaller = bidder.map Fin.val
  lord : round.landlordSeat = none
  held : round.holdings = deal.hands
  bottom : (round.deal.bottomCards : Multiset Card) = deal.bottom

/-- What lies on the table, and whose turn that makes it. -/
def OnTable (round : GameRound) (turn : Fin 3) : Option Trick → Prop
  | none => round.lastPlay = none
  | some trick => round.lastPlay = some (analyze round.lastPlayCards) ∧
      (round.lastPlayCards : Multiset Card) = trick.top ∧
      round.lastPlaySeat = some trick.leader.val ∧
      round.passCount = trick.passes ∧ turn = seatAt (trick.leader + 1 + trick.passes)

structure Playing (round : GameRound) (landlord turn : Fin 3) (hands : Fin 3 → Multiset Card)
    (trick : Option Trick) : Prop where
  phase : round.phase = .playCards
  lord : round.landlordSeat = some landlord.val
  seat : round.currentSeat = turn
  held : round.holdings = hands
  table : OnTable round turn trick

structure Over (round : GameRound) (landlord winner : Fin 3) (hands : Fin 3 → Multiset Card) : Prop where
  phase : round.phase = .settled
  lord : round.landlordSeat = some landlord.val
  seat : round.currentSeat = winner
  won : round.winnerSeat = some winner.val
  held : round.holdings = hands

def Represents (round : GameRound) : Table → Prop
  | .bidding deal turn bidder => Bidding round deal turn bidder
  | .playing landlord turn hands trick => Playing round landlord turn hands trick
  | .won landlord winner hands => Over round landlord winner hands

/-- A seat that is one of the three. -/
def seat? (seat : Nat) : Option (Fin 3) := if inside : seat < 3 then some ⟨seat, inside⟩ else none

/-- The move that a call asks for; none for a seat that is not at the table. -/
def RoundOp.act? : RoundOp → Option Act
  | .callLandlord seat called => (seat? seat).map (Act.call · called)
  | .playCards seat cards => (seat? seat).map (Act.play · cards)
  | .pass seat => (seat? seat).map Act.pass
  | .timeout => none

/-- What is seen of a call: the move it made. -/
def RoundCall.seen (call : RoundCall) : Option Act :=
  if call.accepted then call.move.act? else none

@[simp] theorem seat?_val (seat : Fin 3) : seat? seat = some seat := dif_pos seat.isLt

/-! ## The deal -/

theorem deal_whole (shuffler : Shuffler ρ) (random : ρ) :
    ((Deck.deal shuffler random).1.hands 0 : Multiset Card) + (Deck.deal shuffler random).1.hands 1 +
      (Deck.deal shuffler random).1.hands 2 + (Deck.deal shuffler random).1.bottomCards = createCards :=
  Multiset.coe_eq_coe.mpr (deal_perm shuffler random)

/-- A deal of the deck. -/
def Deck.dealt (shuffler : Shuffler ρ) (random : ρ) : Deal where
  hands seat := (Deck.deal shuffler random).1.hands seat
  bottom := (Deck.deal shuffler random).1.bottomCards
  size seat := deal_hand_length shuffler random seat
  whole := deal_whole shuffler random

theorem represents_start (round : GameRound) (random : ρ) :
    Represents (round.start shuffler random).1 (Deck.dealt shuffler random).table where
  phase := rfl
  seat := rfl
  asked := rfl
  caller := rfl
  lord := rfl
  held := rfl
  bottom := rfl

/-! ## Accepted calls follow the rules -/

theorem holdings_update (hands : Hands) (seat : Fin 3) (cards : List Card) :
    (fun other => ((Function.update hands seat cards other : List Card) : Multiset Card)) =
      Function.update (fun other => (hands other : Multiset Card)) seat cards := by
  funext other
  rw [Function.update_apply, Function.update_apply]
  split <;> rfl

/-- The next seat of the source is the next seat at the table. -/
theorem next_seat (seat : Fin 3) : (seat.val + 1) % 3 = (seat + 1 : Fin 3).val := by
  fin_cases seat <;> rfl

/-- What `play_cards` accepts may be played on what lies on the table. -/
theorem allowed_of_beats {round : GameRound} {turn : Fin 3} {trick : Option Trick} {cards : List Card}
    (table : OnTable round turn trick) (valid : (analyze cards).pattern ≠ .invalid) :
    Allowed cards trick ↔ ∀ last ∈ round.lastPlay, canBeat (analyze cards) last = true := by
  cases trick with
  | none =>
    have empty : round.lastPlay = none := table
    simp only [Allowed, empty, Option.mem_def, reduceCtorEq, false_implies, implies_true, iff_true]
    exact ⟨_, _, (forms_iff cards _ _).mpr ⟨valid, rfl, rfl⟩⟩
  | some trick =>
    obtain ⟨last, top, _⟩ := table
    simp only [Allowed, last, Option.mem_def, Option.some.injEq, forall_eq', ← top]
    exact (beats_iff cards _).symm

theorem Represents.calling {round : GameRound} {table : Table} (represents : Represents round table)
    (phase : round.phase = .callLandlord) :
    ∃ deal turn bidder, table = .bidding deal turn bidder ∧ Bidding round deal turn bidder := by
  cases table with
  | bidding deal turn bidder => exact ⟨deal, turn, bidder, rfl, represents⟩
  | playing => exact absurd (phase.symm.trans (Playing.phase represents)) (by decide)
  | won => exact absurd (phase.symm.trans (Over.phase represents)) (by decide)

theorem Represents.playing {round : GameRound} {table : Table} (represents : Represents round table)
    (phase : round.phase = .playCards) :
    ∃ landlord turn hands trick, table = .playing landlord turn hands trick ∧
      Playing round landlord turn hands trick := by
  cases table with
  | bidding => exact absurd (phase.symm.trans (Bidding.phase represents)) (by decide)
  | playing landlord turn hands trick => exact ⟨landlord, turn, hands, trick, rfl, represents⟩
  | won => exact absurd (phase.symm.trans (Over.phase represents)) (by decide)

/-- The caller that the source notes is the bidder of the rules. -/
theorem bid_caller {round : GameRound} {deal : Deal} {turn : Fin 3} {bidder : Option (Fin 3)}
    (bidding : Bidding round deal turn bidder) (called : Bool) :
    (if called then some round.currentSeat else round.lastCaller) =
      (bid bidder turn called).map Fin.val := by
  rw [bidding.seat, bidding.caller]
  cases called <;> rfl

theorem Bidding.own {round : GameRound} {deal : Deal} {turn : Fin 3} {bidder : Option (Fin 3)}
    (bidding : Bidding round deal turn bidder) : seat? round.currentSeat = some turn := by
  rw [bidding.seat, seat?_val]

theorem Playing.own {round : GameRound} {landlord turn : Fin 3} {hands : Fin 3 → Multiset Card}
    {trick : Option Trick} (playing : Playing round landlord turn hands trick) :
    seat? round.currentSeat = some turn := by
  rw [playing.seat, seat?_val]

/-- The third seat is asked last. -/
theorem Bidding.third {round : GameRound} {deal : Deal} {turn : Fin 3} {bidder : Option (Fin 3)}
    (bidding : Bidding round deal turn bidder) (third : round.callCount + 1 = 3) : turn = 2 := by
  rw [bidding.asked] at third
  exact Fin.ext (by omega)

theorem removeCards_split {hand cards remaining : List Card}
    (removed : GameRound.removeCards hand cards = some remaining) :
    (hand : Multiset Card) = (cards : Multiset Card) + remaining := by
  rw [Multiset.coe_add, Multiset.coe_eq_coe]
  exact removeCards_perm removed

/-- Every accepted call is a move of the game. -/
theorem represents_move {before after : RoundState ρ} {move : RoundOp} {table : Table}
    (represents : Represents before.round table) (moved : Move shuffler now before move after) :
    ∃ act next, move.act? = some act ∧ Rule table act next ∧ Represents after.round next := by
  cases moved with
  | @call round random called phase early =>
    replace represents : Represents round table := represents
    obtain ⟨deal, turn, bidder, rfl, bidding⟩ := represents.calling phase
    have notLast : turn ≠ 2 := by
      rintro rfl
      exact early (by rw [bidding.asked]; rfl)
    refine ⟨.call turn called, _, by simp [RoundOp.act?, bidding.own], .answer notLast, ?_⟩
    refine ⟨phase, ?_, ?_, bid_caller bidding called, bidding.lord, bidding.held, bidding.bottom⟩
    · show (round.currentSeat + 1) % 3 = _
      rw [bidding.seat, next_seat]
    · show round.callCount + 1 = _
      rw [bidding.asked]
      fin_cases turn
      · rfl
      · rfl
      · exact absurd rfl notLast
  | @redeal round random phase third unwanted =>
    replace represents : Represents round table := represents
    obtain ⟨deal, turn, bidder, rfl, bidding⟩ := represents.calling phase
    obtain rfl := bidding.third third
    obtain rfl : bidder = none := by simpa using bidding.caller.symm.trans unwanted
    exact ⟨.call 2 false, _, by simp [RoundOp.act?, bidding.own],
      @Rule.redeal _ (Deck.dealt shuffler random), represents_start round random⟩
  | @landlord round random called landlord phase third wanted =>
    replace represents : Represents round table := represents
    obtain ⟨deal, turn, bidder, rfl, bidding⟩ := represents.calling phase
    obtain rfl := bidding.third third
    have winner : bid bidder 2 called = some landlord := by
      rw [bid_caller bidding] at wanted
      obtain ⟨seat, bids, same⟩ := Option.map_eq_some_iff.mp wanted
      rw [bids, Fin.ext same]
    refine ⟨.call 2 called, _, by simp [RoundOp.act?, bidding.own], .landlord winner, ?_⟩
    refine ⟨rfl, rfl, rfl, ?_, rfl⟩
    show (fun other => ((Function.update round.deal.hands landlord
      (round.deal.hands landlord ++ round.deal.bottomCards) other : List Card) : Multiset Card)) = _
    rw [holdings_update, ← bidding.held, ← bidding.bottom]
    rfl
  | @play round random seat cards remaining phase own nonempty valid beats removed left =>
    replace represents : Represents round table := represents
    obtain ⟨landlord, turn, hands, trick, rfl, playing⟩ := represents.playing phase
    obtain rfl : turn = seat := Fin.ext (playing.seat.symm.trans own)
    have split := removeCards_split removed
    have held : hands turn = round.deal.hands turn := congrFun playing.held.symm turn
    have kept : 0 < (remaining : Multiset Card) :=
      lt_of_le_of_ne (Multiset.zero_le _) (Ne.symm (by simpa using left))
    have fewer : (cards : Multiset Card) < hands turn := by
      rw [held, split]
      exact lt_add_of_pos_right _ kept
    refine ⟨.play turn cards, _, by simp [RoundOp.act?],
      .play ((allowed_of_beats playing.table valid).mpr beats) fewer, ?_⟩
    refine ⟨phase, playing.lord, next_seat turn, ?_, ?_⟩
    · show (fun other => ((Function.update round.deal.hands turn remaining other : List Card) :
        Multiset Card)) = _
      rw [holdings_update, held, split, add_tsub_cancel_left, ← playing.held]
      rfl
    · exact ⟨rfl, rfl, rfl, rfl, Fin.ext (next_seat turn).symm⟩
  | @finish round random seat cards phase own nonempty valid beats removed =>
    replace represents : Represents round table := represents
    obtain ⟨landlord, turn, hands, trick, rfl, playing⟩ := represents.playing phase
    obtain rfl : turn = seat := Fin.ext (playing.seat.symm.trans own)
    have split := removeCards_split removed
    have held : hands turn = cards := by
      rw [← congrFun playing.held turn, GameRound.holdings, split]
      exact add_zero _
    have allowed : Allowed (hands turn) trick :=
      held ▸ (allowed_of_beats playing.table valid).mpr beats
    refine ⟨.play turn (hands turn), _, by simp [RoundOp.act?, held], .finish allowed, ?_⟩
    refine ⟨rfl, playing.lord, own, rfl, ?_⟩
    show (fun other => ((Function.update round.deal.hands turn [] other : List Card) :
      Multiset Card)) = _
    rw [holdings_update, ← playing.held]
    rfl
  | @pass round random phase following other first =>
    replace represents : Represents round table := represents
    obtain ⟨landlord, turn, hands, trick, rfl, playing⟩ := represents.playing phase
    cases trick with
    | none => exact absurd playing.table following
    | some trick =>
      obtain ⟨leader, top, passed⟩ := trick
      obtain ⟨last, shown, led, passes, turned⟩ := playing.table
      cases passed with
      | true => exact absurd (by rw [passes]; rfl) first
      | false =>
        refine ⟨.pass turn, _, by simp [RoundOp.act?, playing.own], .pass, ?_⟩
        refine ⟨phase, playing.lord, ?_, playing.held, last, shown, led, ?_, ?_⟩
        · show (round.currentSeat + 1) % 3 = _
          rw [playing.seat, next_seat]
        · show round.passCount + 1 = _
          rw [passes]
          rfl
        · refine Fin.ext ?_
          rw [← next_seat, turned]
          show ((leader.val + 1 + 0) % 3 + 1) % 3 = (leader + 1 + 1) % 3
          omega
  | @endTrick round random leader phase following other second led =>
    replace represents : Represents round table := represents
    obtain ⟨landlord, turn, hands, trick, rfl, playing⟩ := represents.playing phase
    cases trick with
    | none => exact absurd playing.table following
    | some trick =>
      obtain ⟨first, top, passed⟩ := trick
      obtain ⟨_, _, leads, passes, _⟩ := playing.table
      obtain rfl : first.val = leader := Option.some.inj (leads.symm.trans led)
      cases passed with
      | false =>
        rw [passes] at second
        cases second
      | true =>
        refine ⟨.pass turn, _, by simp [RoundOp.act?, playing.own], .clear, ?_⟩
        exact ⟨phase, playing.lord, rfl, playing.held, rfl⟩

/-! ## What the rules allow is accepted -/

theorem seat?_eq_some {seat : Nat} {own : Fin 3} : seat? seat = some own ↔ seat = own := by
  rw [seat?]
  split
  · next inside => rw [Option.some.injEq, Fin.ext_iff]
  · next outside => simp; omega

/-- What the rules allow on the table is a combination. -/
theorem valid_of_allowed {cards : List Card} {trick : Option Trick}
    (allowed : Allowed (cards : Multiset Card) trick) : (analyze cards).pattern ≠ .invalid := by
  cases trick with
  | none =>
    obtain ⟨pattern, rank, forms⟩ := allowed
    obtain ⟨valid, reported, _⟩ := (forms_iff ..).mp forms
    exact reported ▸ valid
  | some trick =>
    obtain ⟨pattern, rank, forms⟩ : ∃ pattern rank, Forms pattern rank (ranks cards) := by
      cases allowed with
      | rocket forms | bomb forms | higher forms => exact ⟨_, _, forms⟩
    obtain ⟨valid, reported, _⟩ := (forms_iff ..).mp forms
    exact reported ▸ valid

/-- The seat that passes is not the one that led. -/
theorem Playing.other {round : GameRound} {landlord turn : Fin 3} {hands : Fin 3 → Multiset Card}
    {trick : Trick} (playing : Playing round landlord turn hands (some trick)) :
    round.lastPlay ≠ none ∧ round.lastPlaySeat ≠ some round.currentSeat := by
  obtain ⟨last, _, led, _, turned⟩ := playing.table
  refine ⟨by simp [last], ?_⟩
  have few : trick.passes ≤ 1 := by
    rw [Trick.passes]
    split <;> decide
  rw [led, playing.seat, turned]
  intro same
  have equal : trick.leader.val = (trick.leader + 1 + trick.passes) % 3 := Option.some.inj same
  omega

/-- A call that asks for a move that the rules allow is accepted. -/
theorem allowed_accepted {log : DealLog} {state : RoundState ρ} {table next : Table} {op : RoundOp}
    {act : Act} (holds : RoundInv log state.round) (represents : Represents state.round table)
    (asks : op.act? = some act) (rule : Rule table act next) :
    ∃ after, op.exec shuffler now state = .ok (true, after) := by
  obtain ⟨round, random⟩ := state
  replace represents : Represents round table := represents
  replace holds : RoundInv log round := holds
  cases op with
  | timeout => cases asks
  | callLandlord seat called =>
    obtain ⟨own, same, rfl⟩ := Option.map_eq_some_iff.mp asks
    obtain ⟨deal, bidder, rfl⟩ := rule.of_call
    have bidding : Bidding round deal own bidder := represents
    obtain rfl : seat = round.currentSeat := by rw [seat?_eq_some.mp same, bidding.seat]
    obtain ⟨next, done⟩ :
        ∃ next, round.callLandlord shuffler round.currentSeat called now random = .ok (true, next) :=
      callLandlord_accepted holds bidding.phase called random
    exact ⟨_, ExceptLoop.bind_ok.mpr ⟨_, done, rfl⟩⟩
  | playCards seat cards =>
    obtain ⟨own, same, rfl⟩ := Option.map_eq_some_iff.mp asks
    obtain ⟨landlord, hands, trick, rfl, allowed, held⟩ := rule.of_play
    have playing : Playing round landlord own hands trick := represents
    have valid := valid_of_allowed allowed
    obtain rfl := seat?_eq_some.mp same
    have legal : LegalPlay round own cards := by
      refine ⟨playing.phase, playing.seat.symm, ?_, valid,
        (allowed_of_beats playing.table valid).mp allowed, ?_⟩
      · rintro rfl
        exact valid rfl
      · intro card
        have enough := Multiset.count_le_of_le card held
        rw [← playing.held] at enough
        simpa [GameRound.held, GameRound.holdings] using enough
    obtain ⟨next, done⟩ := playCards_legal legal own.isLt
    exact ⟨_, ExceptLoop.bind_ok.mpr ⟨_, done, rfl⟩⟩
  | pass seat =>
    obtain ⟨own, same, rfl⟩ := Option.map_eq_some_iff.mp asks
    obtain ⟨landlord, hands, trick, rfl⟩ := rule.of_pass
    have playing : Playing round landlord own hands (some trick) := represents
    obtain rfl : seat = round.currentSeat := by rw [seat?_eq_some.mp same, playing.seat]
    obtain ⟨following, other⟩ := playing.other
    obtain ⟨next, done⟩ := pass_accepted holds playing.phase following other
    exact ⟨_, ExceptLoop.bind_ok.mpr ⟨_, done, rfl⟩⟩

/-- Whatever is called, the answer is yes exactly when the rules allow the move. -/
theorem accepted_iff {log : DealLog} {state : RoundState ρ} {table : Table}
    (holds : RoundInv log state.round) (represents : Represents state.round table) (op : RoundOp)
    (now : Time) :
    ∃ accepted after, op.exec shuffler now state = .ok (accepted, after) ∧
      (accepted = true ↔ ∃ act next, (op.resolve state.round).act? = some act ∧ Rule table act next) := by
  obtain ⟨⟨accepted, after⟩, done⟩ : ∃ answer, op.exec shuffler now state = .ok answer :=
    exec_ok holds op
  refine ⟨accepted, after, done, ?_⟩
  constructor
  · rintro rfl
    obtain ⟨_, moved⟩ | ⟨refused, _⟩ := exec_cases done
    · obtain ⟨act, next, asks, rule, _⟩ := represents_move represents moved
      exact ⟨act, next, asks, rule⟩
    · cases refused
  · rintro ⟨act, next, asks, rule⟩
    obtain ⟨other, granted⟩ : ∃ other, (op.resolve state.round).exec shuffler now state =
        .ok (true, other) := allowed_accepted holds represents asks rule
    have same : (op.resolve state.round).exec shuffler now state = op.exec shuffler now state := by
      cases op with
      | timeout => exact (exec_timeout fun _ => holds.seated).symm
      | _ => rfl
    rw [same, done] at granted
    cases granted
    rfl

/-! ## Runs -/

/-- Seen from the table, a round is the game. -/
theorem rounds_simulate (shuffler : Shuffler ρ) :
    Transition.Simulation (RoundStep shuffler) Rule RoundCall.seen
      fun (state : RoundState ρ) table => Represents state.round table where
  silent := by
    intro before after call table represents step unseen
    obtain ⟨accepted, moved⟩ | ⟨_, rfl⟩ := step.cases
    · obtain ⟨act, _, asks, _⟩ := represents_move represents moved
      rw [RoundCall.seen, if_pos accepted, asks] at unseen
      cases unseen
    · exact represents
  visible := by
    intro before after call table act represents step sight
    obtain ⟨accepted, moved⟩ | ⟨refused, _⟩ := step.cases
    · obtain ⟨own, next, asks, rule, kept⟩ := represents_move represents moved
      rw [RoundCall.seen, if_pos accepted, asks] at sight
      cases sight
      exact ⟨next, rule, kept⟩
    · rw [RoundCall.seen, refused] at sight
      cases sight

/-- Wherever calls lead after `start`, the calls that were accepted are a game by the
    rules, the round shows its table, and a call is accepted exactly when it asks for a
    move that the rules allow there. -/
theorem rounds_follow_the_rules (shuffler : Shuffler ρ) (round : GameRound) (random : ρ)
    (calls : List (RoundOp × Time)) :
    ∃ trace finish table,
      (RoundState.start shuffler round random).run shuffler calls = .ok (trace, finish) ∧
      Run (Deck.dealt shuffler random) (trace.filterMap RoundCall.seen) table ∧
      Represents finish.round table ∧
      ∀ op now, ∃ accepted after, RoundOp.exec shuffler op now finish = .ok (accepted, after) ∧
        (accepted = true ↔
          ∃ act next, (op.resolve finish.round).act? = some act ∧ Rule table act next) := by
  obtain ⟨trace, finish, ran, holds⟩ := run_start shuffler round random calls
  obtain ⟨table, game, represents⟩ := (rounds_simulate shuffler).run (RoundState.run_steps ran)
    (represents_start round random)
  exact ⟨trace, finish, table, ran, game, represents, accepted_iff holds represents⟩

end Doudizhu.Game
