import Mathlib.Data.List.Chain
import Doudizhu.Game.RoundInvariant

/-! # Tricks

A play is compared with the one on the table only.  `can_beat` is a strict order, so the
plays of a trick rise all the same: each beats all that came before it.
-/

namespace Doudizhu.Game

variable {ρ : Type} {shuffler : Shuffler ρ}

/-! ## The order of the plays -/

namespace CardRules

theorem canBeat_irrefl (play : Play) : canBeat play play = false := by
  obtain ⟨pattern, mainRank, cardCount⟩ := play
  cases pattern <;> simp [canBeat]

theorem canBeat_asymm {one other : Play} (beats : canBeat one other) :
    canBeat other one = false := by
  rw [Bool.eq_false_iff]
  intro beaten
  obtain ⟨pattern, mainRank, cardCount⟩ := one
  obtain ⟨otherPattern, otherRank, otherCount⟩ := other
  cases pattern <;> cases otherPattern <;> simp [canBeat] at beats beaten <;> omega

theorem canBeat_trans {high middle low : Play} (above : canBeat high middle)
    (below : canBeat middle low) : canBeat high low := by
  obtain ⟨highPattern, highRank, highCount⟩ := high
  obtain ⟨pattern, rank, count⟩ := middle
  obtain ⟨lowPattern, lowRank, lowCount⟩ := low
  cases highPattern <;> cases pattern <;> simp [canBeat] at above <;>
    cases lowPattern <;> simp [canBeat] at below ⊢ <;> omega

/-- Nothing beats a rocket. -/
theorem canBeat_rocket {current previous : Play} (rocket : previous.pattern = .rocket) :
    canBeat current previous = false := by
  obtain ⟨pattern, mainRank, cardCount⟩ := current
  cases pattern <;> simp [canBeat, rocket]

end CardRules

/-! ## Tricks in a run -/

/-- An accepted play; `timeout` makes them too. -/
def RoundCall.Plays (call : RoundCall) (seat : Nat) (cards : List Card) : Prop :=
  call.accepted = true ∧ call.move = .playCards seat cards

def acceptedMoves (calls : List RoundCall) : List RoundOp :=
  (calls.filter RoundCall.accepted).map RoundCall.move

/-- The second of two passes in a row ends the trick. -/
def TrickEnds (calls : List RoundCall) : Prop :=
  ∃ seat next, [RoundOp.pass seat, RoundOp.pass next] <:+: acceptedMoves calls

/-- The plays of the trick, and whether the last call was a pass. -/
structure Trick where
  plays : List Play := []
  passed : Bool := false

namespace Trick

def record (trick : Trick) : RoundOp → Trick
  | .playCards _ cards => { plays := trick.plays ++ [CardRules.analyze cards] }
  | .pass _ => if trick.passed then {} else { trick with passed := true }
  | .callLandlord _ _ | .timeout => { trick with passed := false }

def extend (trick : Trick) (call : RoundCall) : Trick :=
  if call.accepted then trick.record call.move else trick

def ofTrace (trace : List RoundCall) : Trick := trace.foldl extend {}

theorem ofTrace_snoc (trace : List RoundCall) (call : RoundCall) :
    ofTrace (trace ++ [call]) = (ofTrace trace).extend call := by
  simp [ofTrace]

end Trick

/-- The round knows the last play of the trick, and that play beats the others. -/
structure TrickLog (trick : Trick) (round : GameRound) : Prop where
  table : round.lastPlay = trick.plays.getLast?
  passes : round.passCount = if trick.passed then 1 else 0
  rising : trick.plays.Pairwise fun previous current => CardRules.canBeat current previous

theorem TrickLog.clear {trick : Trick} {round : GameRound} (holds : TrickLog trick round)
    (noPlay : round.lastPlay = none) (noPasses : round.passCount = 0) : trick = {} := by
  obtain ⟨plays, passed⟩ := trick
  have empty : plays = [] := List.getLast?_eq_none_iff.mp (holds.table.symm.trans noPlay)
  have still := holds.passes
  rw [noPasses] at still
  cases passed with
  | true => simp at still
  | false => rw [empty]

theorem trickLog_clear {round : GameRound} (noPlay : round.lastPlay = none)
    (noPasses : round.passCount = 0) : TrickLog {} round :=
  ⟨noPlay, noPasses, .nil⟩

/-- What beats the last play beats the plays that it beat. -/
theorem TrickLog.play {trick : Trick} {round : GameRound} (holds : TrickLog trick round)
    {play : Play} (beats : ∀ last ∈ round.lastPlay, CardRules.canBeat play last) :
    (trick.plays ++ [play]).Pairwise fun previous current => CardRules.canBeat current previous := by
  rw [List.pairwise_append]
  refine ⟨holds.rising, List.pairwise_singleton _ _, ?_⟩
  intro previous member other own
  rw [List.mem_singleton.mp own]
  cases plays : trick.plays using List.reverseRecOn with
  | nil => simp [plays] at member
  | append_singleton before last =>
    have top : CardRules.canBeat play last := beats last (by simp [holds.table, plays])
    rw [plays] at member
    obtain earlier | same := List.mem_append.mp member
    · have rising := holds.rising
      rw [plays, List.pairwise_append] at rising
      exact CardRules.canBeat_trans top (rising.2.2 previous earlier last (by simp))
    · rwa [List.mem_singleton.mp same]

theorem trickLog_move {log : DealLog} {trick : Trick} {now : Time} {before after : RoundState ρ}
    {move : RoundOp} (sound : RoundInv log before.round) (holds : TrickLog trick before.round)
    (moved : Move shuffler now before move after) :
    TrickLog (trick.record move) after.round := by
  cases moved with
  | call phase =>
    exact ⟨holds.table, (sound.calling phase).noPasses, holds.rising⟩
  | redeal phase =>
    have calling := sound.calling phase
    obtain rfl := holds.clear calling.noPlay calling.noPasses
    exact trickLog_clear rfl rfl
  | landlord phase =>
    have calling := sound.calling phase
    obtain rfl := holds.clear calling.noPlay calling.noPasses
    exact trickLog_clear rfl rfl
  | play phase own nonempty valid beats | finish phase own nonempty valid beats =>
    exact ⟨by simp [Trick.record], by simp [Trick.record], holds.play beats⟩
  | pass phase following other early =>
    have passes := holds.passes
    cases passed : trick.passed with
    | true =>
      rw [passed, if_pos rfl] at passes
      exact absurd (congrArg (· + 1) passes) early
    | false =>
      refine ⟨?_, ?_, ?_⟩
      · simpa [Trick.record, passed] using holds.table
      · simpa [Trick.record, passed] using passes
      · simpa [Trick.record, passed] using holds.rising
  | @endTrick round random leader phase following other second =>
    have passed : trick.passed = true := by
      cases passed : trick.passed with
      | true => rfl
      | false =>
        have passes : round.passCount = 0 := by simpa [passed] using holds.passes
        rw [passes] at second
        cases second
    rw [Trick.record, if_pos passed]
    exact trickLog_clear rfl rfl

theorem trickLog_step {log : DealLog} {trick : Trick} {before after : RoundState ρ}
    {call : RoundCall} (sound : RoundInv log before.round) (holds : TrickLog trick before.round)
    (step : RoundStep shuffler before call after) :
    TrickLog (trick.extend call) after.round := by
  obtain ⟨accepted, moved⟩ | ⟨refused, rfl⟩ := step.cases
  · rw [Trick.extend, if_pos accepted]
    exact trickLog_move sound holds moved
  · simpa [Trick.extend, refused] using holds

theorem trickLog_run {round : GameRound} {random : ρ} {trace : List RoundCall}
    {finish : RoundState ρ}
    (run : Transition.Steps (RoundStep shuffler) (RoundState.start shuffler round random) trace finish) :
    TrickLog (.ofTrace trace) finish.round := by
  have both : RoundInv (DealLog.ofTrace trace) finish.round ∧
      TrickLog (.ofTrace trace) finish.round := by
    refine run.history (fun trace (state : RoundState ρ) =>
      RoundInv (DealLog.ofTrace trace) state.round ∧ TrickLog (.ofTrace trace) state.round) ?_ ?_
    · exact ⟨roundInv_start round random, trickLog_clear rfl rfl⟩
    · intro trace before call after _ ⟨sound, holds⟩ step
      rw [DealLog.ofTrace_snoc, Trick.ofTrace_snoc]
      exact ⟨roundInv_step sound step, trickLog_step sound holds step⟩
  exact both.2

/-! ## One trick -/

theorem not_trickEnds_of_append {calls : List RoundCall} {call : RoundCall}
    (going : ¬ TrickEnds (calls ++ [call])) : ¬ TrickEnds calls := by
  rintro ⟨seat, next, twice⟩
  refine going ⟨seat, next, twice.trans ?_⟩
  rw [acceptedMoves, acceptedMoves, List.filter_append, List.map_append]
  exact (List.prefix_append _ _).isInfix

/-- Until the trick ends, its plays are kept. -/
theorem kept_in_trick {trick : Trick} {play : Play} {between : List RoundCall}
    (going : ¬ TrickEnds between) (last : play ∈ trick.plays) (fresh : trick.passed = false) :
    play ∈ (between.foldl Trick.extend trick).plays ∧
      ((between.foldl Trick.extend trick).passed = true →
        ∃ moves seat, acceptedMoves between = moves ++ [.pass seat]) := by
  induction between using List.reverseRecOn with
  | nil => exact ⟨last, fun passed => by simp [fresh] at passed⟩
  | append_singleton between call inductionHypothesis =>
    obtain ⟨kept, passing⟩ := inductionHypothesis (not_trickEnds_of_append going)
    rw [List.foldl_append, List.foldl_cons, List.foldl_nil]
    generalize between.foldl Trick.extend trick = current at kept passing ⊢
    cases accepted : call.accepted with
    | false => simpa [Trick.extend, acceptedMoves, accepted] using ⟨kept, passing⟩
    | true =>
      have moves : acceptedMoves (between ++ [call]) = acceptedMoves between ++ [call.move] := by
        simp [acceptedMoves, accepted]
      rw [Trick.extend, if_pos accepted, moves]
      cases move : call.move with
      | callLandlord seat called | timeout => exact ⟨kept, fun passed => by cases passed⟩
      | playCards seat cards => exact ⟨List.mem_append_left _ kept, fun passed => by cases passed⟩
      | pass seat =>
        cases passed : current.passed with
        | false =>
          refine ⟨by simpa [Trick.record, passed] using kept, fun _ => ⟨_, seat, rfl⟩⟩
        | true =>
          -- the pass before it and this one end the trick
          obtain ⟨earlier, before, split⟩ := passing passed
          refine absurd ⟨before, seat, ?_⟩ going
          rw [moves, split, move, List.append_assoc]
          exact (List.suffix_append _ _).isInfix

/-- `can_beat` is a strict order of the plays; and in every run, of two accepted plays
    without the end of a trick between them the later one beats the earlier one.  So no
    play of the trick follows a rocket. -/
theorem trick_only_rises (shuffler : Shuffler ρ) :
    (∀ play, CardRules.canBeat play play = false) ∧
    (∀ one other, CardRules.canBeat one other → CardRules.canBeat other one = false) ∧
    (∀ high middle low, CardRules.canBeat high middle → CardRules.canBeat middle low →
      CardRules.canBeat high low) ∧
    ∀ (round : GameRound) (random : ρ) (calls : List (RoundOp × Time)), ∃ trace finish,
      (RoundState.start shuffler round random).run shuffler calls = .ok (trace, finish) ∧
      ∀ earlier first between second later seat other cards reply,
        trace = earlier ++ first :: between ++ second :: later →
        first.Plays seat cards → second.Plays other reply → ¬ TrickEnds between →
        CardRules.canBeat (CardRules.analyze reply) (CardRules.analyze cards) = true ∧
        CardRules.canBeat (CardRules.analyze cards) (CardRules.analyze reply) = false ∧
        (CardRules.analyze cards).pattern ≠ .rocket := by
  refine ⟨CardRules.canBeat_irrefl, fun _ _ => CardRules.canBeat_asymm,
    fun _ _ _ => CardRules.canBeat_trans, ?_⟩
  intro round random calls
  obtain ⟨trace, finish, ran, _⟩ := run_start shuffler round random calls
  refine ⟨trace, finish, ran, ?_⟩
  rintro earlier first between second later seat other cards reply rfl ⟨accepted, led⟩
    ⟨secondAccepted, followed⟩ going
  -- the run up to the second play
  have run := RoundState.run_steps ran
  rw [List.append_cons] at run
  obtain ⟨middle, run, _⟩ := run.split
  have rising := (trickLog_run run).rising
  have start : Trick.ofTrace (earlier ++ [first]) =
      { plays := (Trick.ofTrace earlier).plays ++ [CardRules.analyze cards] } := by
    rw [Trick.ofTrace_snoc, Trick.extend, if_pos accepted, led, Trick.record]
  have last : CardRules.analyze cards ∈ (Trick.ofTrace (earlier ++ [first])).plays := by
    simp [start]
  obtain ⟨kept, _⟩ := kept_in_trick going last (by rw [start])
  rw [Trick.ofTrace_snoc, Trick.extend, if_pos secondAccepted, followed, List.append_cons,
    Trick.ofTrace, List.foldl_append, ← Trick.ofTrace, Trick.record, List.pairwise_append] at rising
  have beats : CardRules.canBeat (CardRules.analyze reply) (CardRules.analyze cards) = true :=
    rising.2.2 _ kept _ (by simp)
  refine ⟨beats, CardRules.canBeat_asymm beats, ?_⟩
  intro rocket
  rw [CardRules.canBeat_rocket rocket] at beats
  cases beats

end Doudizhu.Game
