import Doudizhu.Game.GameRound
import Doudizhu.Lib.Steps
import Doudizhu.Lib.ExceptLoop

/-! # What a call does to a round

A call either is refused, and then the round stands as it was, or it is one of seven
moves.  `exec_cases` reads the operations of `GameRound` as this relation, once; the
invariants of a round are then proved by cases on `Move` and never unfold them again.
-/

namespace Doudizhu.Game

variable {ρ : Type} {shuffler : Shuffler ρ} {now : Time}

/-! ## The moves -/

/-- `Move shuffler now before call after`: an accepted call, `timeout` excepted, which
    makes one of the other calls. -/
inductive Move (shuffler : Shuffler ρ) (now : Time) :
    RoundState ρ → RoundOp → RoundState ρ → Prop where
  | call {round : GameRound} {random : ρ} {called : Bool} :
      round.phase = .callLandlord → round.callCount + 1 ≠ 3 →
      Move shuffler now ⟨round, random⟩ (.callLandlord round.currentSeat called)
        ⟨{ round with
            lastCaller := if called then some round.currentSeat else round.lastCaller
            callCount := round.callCount + 1
            currentSeat := (round.currentSeat + 1) % 3 }, random⟩
  | redeal {round : GameRound} {random : ρ} :
      round.phase = .callLandlord → round.callCount + 1 = 3 → round.lastCaller = none →
      Move shuffler now ⟨round, random⟩ (.callLandlord round.currentSeat false)
        ⟨(round.start shuffler random).1, (round.start shuffler random).2⟩
  | landlord {round : GameRound} {random : ρ} {called : Bool} {landlord : Fin 3} :
      round.phase = .callLandlord → round.callCount + 1 = 3 →
      (if called then some round.currentSeat else round.lastCaller) = some landlord.val →
      Move shuffler now ⟨round, random⟩ (.callLandlord round.currentSeat called)
        ⟨{ round with
            deal.hands := Function.update round.deal.hands landlord
              (round.deal.hands landlord ++ round.deal.bottomCards)
            lastCaller := some landlord
            callCount := round.callCount + 1
            landlordSeat := some landlord
            phase := .playCards
            playStartedAt := some now
            currentSeat := landlord
            lastPlay := none
            lastPlaySeat := none
            passCount := 0 }, random⟩
  | play {round : GameRound} {random : ρ} {seat : Fin 3} {cards remaining : List Card} :
      round.phase = .playCards → round.currentSeat = seat → cards ≠ [] →
      (CardRules.analyze cards).pattern ≠ .invalid →
      (∀ last ∈ round.lastPlay, CardRules.canBeat (CardRules.analyze cards) last) →
      GameRound.removeCards (round.deal.hands seat) cards = some remaining → remaining ≠ [] →
      Move shuffler now ⟨round, random⟩ (.playCards seat cards)
        ⟨{ round with
            deal.hands := Function.update round.deal.hands seat remaining
            lastPlay := some (CardRules.analyze cards)
            lastPlaySeat := some seat
            lastPlayCards := cards
            passCount := 0
            currentSeat := (seat + 1) % 3 }, random⟩
  | finish {round : GameRound} {random : ρ} {seat : Fin 3} {cards : List Card} :
      round.phase = .playCards → round.currentSeat = seat → cards ≠ [] →
      (CardRules.analyze cards).pattern ≠ .invalid →
      (∀ last ∈ round.lastPlay, CardRules.canBeat (CardRules.analyze cards) last) →
      GameRound.removeCards (round.deal.hands seat) cards = some [] →
      Move shuffler now ⟨round, random⟩ (.playCards seat cards)
        ⟨{ round with
            deal.hands := Function.update round.deal.hands seat []
            lastPlay := some (CardRules.analyze cards)
            lastPlaySeat := some seat
            lastPlayCards := cards
            passCount := 0
            phase := .settled
            winnerSeat := some seat }, random⟩
  | pass {round : GameRound} {random : ρ} :
      round.phase = .playCards → round.lastPlay ≠ none →
      round.lastPlaySeat ≠ some round.currentSeat → round.passCount + 1 ≠ 2 →
      Move shuffler now ⟨round, random⟩ (.pass round.currentSeat)
        ⟨{ round with
            passCount := round.passCount + 1
            currentSeat := (round.currentSeat + 1) % 3 }, random⟩
  | endTrick {round : GameRound} {random : ρ} {leader : Nat} :
      round.phase = .playCards → round.lastPlay ≠ none →
      round.lastPlaySeat ≠ some round.currentSeat → round.passCount + 1 = 2 →
      round.lastPlaySeat = some leader →
      Move shuffler now ⟨round, random⟩ (.pass round.currentSeat)
        ⟨{ round with
            currentSeat := leader
            lastPlay := none
            lastPlaySeat := none
            lastPlayCards := []
            passCount := 0 }, random⟩

/-- The call that `timeout` makes in place of the current player. -/
def GameRound.timeoutCall (round : GameRound) : RoundOp :=
  match round.phase with
  | .callLandlord => .callLandlord round.currentSeat false
  | .playCards =>
    if round.lastPlay.isSome ∧ round.lastPlaySeat ≠ some round.currentSeat then
      .pass round.currentSeat
    else .playCards round.currentSeat
      (if inside : round.currentSeat < 3 then (round.deal.hands ⟨round.currentSeat, inside⟩).take 1
       else [])
  | _ => .timeout

/-- The call an operation comes down to. -/
def RoundOp.resolve (op : RoundOp) (round : GameRound) : RoundOp :=
  match op with
  | .timeout => round.timeoutCall
  | op => op

/-! ## Removing cards -/

/-- The loop succeeds exactly on sub-multisets of the hand, and what it takes out and
    what it leaves are the hand. -/
theorem removeCards_perm {hand cards remaining : List Card}
    (removed : GameRound.removeCards hand cards = some remaining) :
    hand.Perm (cards ++ remaining) := by
  induction cards generalizing hand with
  | nil =>
    cases removed
    exact .refl _
  | cons card cards inductionHypothesis =>
    simp only [GameRound.removeCards] at removed
    split at removed
    · next held => exact (List.perm_cons_erase held).trans ((inductionHypothesis removed).cons card)
    · cases removed

theorem removeCards_single (card : Card) (rest : List Card) :
    GameRound.removeCards (card :: rest) [card] = some rest := by
  simp [GameRound.removeCards]

/-! ## Reading the operations -/

theorem callLandlord_cases {round next : GameRound} {random after : ρ} {seat : Nat}
    {called accepted : Bool}
    (done : round.callLandlord shuffler seat called now random = .ok (accepted, next, after)) :
    (accepted = true ∧ Move shuffler now ⟨round, random⟩ (.callLandlord seat called) ⟨next, after⟩) ∨
      (accepted = false ∧ next = round ∧ after = random ∧
        (round.phase ≠ .callLandlord ∨ seat ≠ round.currentSeat)) := by
  unfold GameRound.callLandlord at done
  split at done
  · next guard =>
    cases done
    exact .inr ⟨rfl, rfl, rfl, guard⟩
  · next guard =>
    obtain ⟨calling, own⟩ := not_or.mp guard
    rw [not_not] at calling own
    subst own
    refine .inl ?_
    dsimp only at done
    split at done
    · next third =>
      split at done
      · next unwanted =>
        cases called with
        | true => cases unwanted
        | false =>
          cases done
          exact ⟨rfl, .redeal calling third unwanted⟩
      · next landlord wanted =>
        by_cases inside : landlord < 3
        · simp only [GameRound.hand, GameRound.setHand, inside, dite_true] at done
          cases done
          refine ⟨rfl, ?_⟩
          have entry : Move shuffler now ⟨round, random⟩ _ _ :=
            @Move.landlord _ shuffler now round random called ⟨landlord, inside⟩ calling third wanted
          simpa only [wanted] using entry
        · simp only [GameRound.hand, inside, dite_false] at done
          cases done
    · next early =>
      cases done
      exact ⟨rfl, .call calling early⟩

theorem playCards_cases (now : Time) {round next : GameRound} {random : ρ} {seat : Nat} {cards : List Card}
    {accepted : Bool} (done : round.playCards seat cards = .ok (accepted, next)) :
    (accepted = true ∧ Move shuffler now ⟨round, random⟩ (.playCards seat cards) ⟨next, random⟩) ∨
      (accepted = false ∧ next = round) := by
  unfold GameRound.playCards at done
  dsimp only at done
  split at done
  · cases done
    exact .inr ⟨rfl, rfl⟩
  · next guard =>
    obtain ⟨playing, guard⟩ := not_or.mp guard
    obtain ⟨own, nonempty⟩ := not_or.mp guard
    rw [not_not] at playing own
    split at done
    · cases done
      exact .inr ⟨rfl, rfl⟩
    · next valid =>
      split at done
      · cases done
        exact .inr ⟨rfl, rfl⟩
      · next beaten =>
        have beats : ∀ last ∈ round.lastPlay, CardRules.canBeat (CardRules.analyze cards) last := by
          intro last set
          simp only [Option.mem_def] at set
          simpa [set] using beaten
        obtain ⟨hand, found, done⟩ := ExceptLoop.bind_ok.mp done
        by_cases inside : seat < 3
        · simp only [GameRound.hand, inside, dite_true, Except.ok.injEq] at found
          subst found
          split at done
          · cases done
            exact .inr ⟨rfl, rfl⟩
          · next remaining removed =>
            simp only [GameRound.setHand, inside, dite_true] at done
            change (if remaining = [] then _ else _) = _ at done
            split at done
            · next none =>
              subst none
              cases done
              exact .inl ⟨rfl, @Move.finish _ shuffler now round random ⟨seat, inside⟩ cards
                playing own.symm nonempty valid beats removed⟩
            · next left =>
              cases done
              exact .inl ⟨rfl, @Move.play _ shuffler now round random ⟨seat, inside⟩ cards remaining
                playing own.symm nonempty valid beats removed left⟩
        · simp only [GameRound.hand, inside, dite_false] at found
          cases found

theorem pass_cases (now : Time) {round next : GameRound} {random : ρ} {seat : Nat} {accepted : Bool}
    (done : round.pass seat = .ok (accepted, next)) :
    (accepted = true ∧ Move shuffler now ⟨round, random⟩ (.pass seat) ⟨next, random⟩) ∨
      (accepted = false ∧ next = round ∧
        (round.phase ≠ .playCards ∨ seat ≠ round.currentSeat ∨ round.lastPlay = none ∨
          round.lastPlaySeat = some seat)) := by
  unfold GameRound.pass at done
  dsimp only at done
  split at done
  · next guard =>
    cases done
    exact .inr ⟨rfl, rfl, guard⟩
  · next guard =>
    obtain ⟨playing, guard⟩ := not_or.mp guard
    obtain ⟨own, guard⟩ := not_or.mp guard
    obtain ⟨following, other⟩ := not_or.mp guard
    rw [not_not] at playing own
    subst own
    refine .inl ?_
    split at done
    · next second =>
      split at done
      · cases done
      · next leader led =>
        cases done
        exact ⟨rfl, .endTrick playing following other second led⟩
    · next first =>
      cases done
      exact ⟨rfl, .pass playing following other first⟩

/-- `timeout` is the call it makes.  Only a lead reads the hand of the current seat. -/
theorem exec_timeout {state : RoundState ρ}
    (seated : ∀ cards, state.round.timeoutCall = .playCards state.round.currentSeat cards →
      state.round.currentSeat < 3) :
    RoundOp.timeout.exec shuffler now state =
      state.round.timeoutCall.exec shuffler now state := by
  obtain ⟨round, random⟩ := state
  unfold GameRound.timeoutCall at seated ⊢
  simp only [RoundOp.exec, GameRound.timeout] at seated ⊢
  cases phase : round.phase with
  | waitingPlayers => simp
  | settled => simp
  | callLandlord => simp
  | playCards =>
    rw [phase] at seated
    simp only [reduceCtorEq, ite_false, ne_eq, not_true_eq_false] at seated ⊢
    split
    · simp only [bind_assoc]
      rfl
    · next leads =>
      rw [if_neg leads] at seated
      have inside := seated _ rfl
      simp only [GameRound.hand, inside, dite_true]
      cases hand : round.deal.hands ⟨round.currentSeat, inside⟩ with
      | nil => simp [GameRound.playCards, bind, Except.bind]
      | cons card rest =>
        simp only [List.take_succ_cons, List.take_zero]
        show ((round.playCards round.currentSeat [card] >>=
            fun answer => Except.ok (answer.1, answer.2, random)) >>=
            fun answer => Except.ok (answer.1, RoundState.mk answer.2.1 answer.2.2)) = _
        rw [bind_assoc]
        rfl

/-- Away from the three seats a lead has no hand to read. -/
theorem timeout_outside {round : GameRound} {random : ρ} {cards : List Card}
    (lead : round.timeoutCall = .playCards round.currentSeat cards)
    (outside : ¬ round.currentSeat < 3) :
    round.timeout shuffler now random = .error .handsAt := by
  unfold GameRound.timeoutCall at lead
  unfold GameRound.timeout
  cases phase : round.phase with
  | waitingPlayers => simp [phase] at lead
  | settled => simp [phase] at lead
  | callLandlord => simp [phase] at lead
  | playCards =>
    simp only [phase] at lead
    split at lead
    · cases lead
    · next leads =>
      simp only [reduceCtorEq, ite_false, ne_eq, not_true_eq_false]
      rw [if_neg leads]
      simp [GameRound.hand, outside, bind, Except.bind]

/-- Outside calling and playing there is no call to make. -/
theorem timeout_idle {state next : RoundState ρ} {accepted : Bool}
    (idle : state.round.timeoutCall = .timeout)
    (done : RoundOp.timeout.exec shuffler now state = .ok (accepted, next)) :
    accepted = false ∧ next = state := by
  obtain ⟨round, random⟩ := state
  unfold GameRound.timeoutCall at idle
  simp only [RoundOp.exec, GameRound.timeout] at done
  cases phase : round.phase with
  | callLandlord => simp [phase] at idle
  | playCards =>
    simp only [phase] at idle
    split at idle <;> cases idle
  | waitingPlayers | settled =>
    simp only [phase] at done
    cases done
    exact ⟨rfl, rfl⟩

/-- An operation that returns was refused, or it made a move. -/
theorem exec_cases {op : RoundOp} {state next : RoundState ρ} {accepted : Bool}
    (done : op.exec shuffler now state = .ok (accepted, next)) :
    (accepted = true ∧ Move shuffler now state (op.resolve state.round) next) ∨
      (accepted = false ∧ next = state) := by
  have direct : ∀ op : RoundOp, op ≠ .timeout → op.exec shuffler now state = .ok (accepted, next) →
      (accepted = true ∧ Move shuffler now state op next) ∨ (accepted = false ∧ next = state) := by
    intro op notTimeout done
    obtain ⟨round, random⟩ := state
    cases op with
    | callLandlord seat called =>
      obtain ⟨⟨answer, after, generator⟩, called, done⟩ := ExceptLoop.bind_ok.mp done
      cases done
      obtain ⟨yes, move⟩ | ⟨no, rfl, rfl, _⟩ := callLandlord_cases called
      · exact .inl ⟨yes, move⟩
      · exact .inr ⟨no, rfl⟩
    | playCards seat cards =>
      obtain ⟨⟨answer, after⟩, played, done⟩ := ExceptLoop.bind_ok.mp done
      cases done
      obtain ⟨yes, move⟩ | ⟨no, rfl⟩ := playCards_cases now played
      · exact .inl ⟨yes, move⟩
      · exact .inr ⟨no, rfl⟩
    | pass seat =>
      obtain ⟨⟨answer, after⟩, passed, done⟩ := ExceptLoop.bind_ok.mp done
      cases done
      obtain ⟨yes, move⟩ | ⟨no, rfl, _⟩ := pass_cases now passed
      · exact .inl ⟨yes, move⟩
      · exact .inr ⟨no, rfl⟩
    | timeout => exact absurd rfl notTimeout
  by_cases timeout : op = .timeout
  · subst timeout
    change _ ∧ Move shuffler now state state.round.timeoutCall next ∨ _
    have seated : ∀ cards, state.round.timeoutCall = .playCards state.round.currentSeat cards →
        state.round.currentSeat < 3 := by
      intro cards lead
      by_contra outside
      simp only [RoundOp.exec, timeout_outside lead outside] at done
      cases done
    by_cases idle : state.round.timeoutCall = .timeout
    · exact .inr (timeout_idle idle done)
    · exact direct _ idle (exec_timeout seated ▸ done)
  · have same : op.resolve state.round = op := by cases op <;> first | rfl | exact absurd rfl timeout
    rw [same]
    exact direct op timeout done

/-! ## Runs -/

/-- A call of an operation: when, the answer, and the call it came down to. -/
structure RoundCall where
  op : RoundOp
  now : Time
  accepted : Bool
  move : RoundOp

def RoundStep (shuffler : Shuffler ρ) (before : RoundState ρ) (call : RoundCall)
    (after : RoundState ρ) : Prop :=
  call.op.exec shuffler call.now before = .ok (call.accepted, after) ∧
    call.move = call.op.resolve before.round

/-- A round on which `start` has just been called. -/
def RoundState.start (shuffler : Shuffler ρ) (round : GameRound) (random : ρ) : RoundState ρ :=
  ⟨(round.start shuffler random).1, (round.start shuffler random).2⟩

theorem RoundStep.cases {before after : RoundState ρ} {call : RoundCall}
    (step : RoundStep shuffler before call after) :
    (call.accepted = true ∧ Move shuffler call.now before call.move after) ∨
      (call.accepted = false ∧ after = before) := by
  rw [step.2]
  exact exec_cases step.1

/-- What happened since the latest deal: who called and who declined, and the cards
    played.  The rounds do not keep it. -/
structure DealLog where
  calls : List (Nat × Bool) := []
  played : List Card := []

def DealLog.record (log : DealLog) (move : RoundOp) : DealLog :=
  match move with
  | .callLandlord seat called =>
    let calls := log.calls ++ [(seat, called)]
    -- three seats have declined: the cards are dealt again
    if calls.length = 3 ∧ ∀ call ∈ calls, call.2 = false then {} else { log with calls }
  | .playCards _ cards => { log with played := log.played ++ cards }
  | _ => log

def DealLog.extend (log : DealLog) (call : RoundCall) : DealLog :=
  if call.accepted then log.record call.move else log

def DealLog.ofTrace (trace : List RoundCall) : DealLog := trace.foldl DealLog.extend {}

/-- The seats that called, in the order of their calls. -/
def DealLog.callers (log : DealLog) : List Nat :=
  log.calls.filterMap fun call => if call.2 then some call.1 else none

theorem DealLog.ofTrace_snoc (trace : List RoundCall) (call : RoundCall) :
    DealLog.ofTrace (trace ++ [call]) = (DealLog.ofTrace trace).extend call := by
  simp [DealLog.ofTrace]

/-- The calls, made one after another. -/
def RoundState.run (shuffler : Shuffler ρ) (state : RoundState ρ) :
    List (RoundOp × Time) → Except Fault (List RoundCall × RoundState ρ)
  | [] => .ok ([], state)
  | (op, now) :: calls => do
    let (accepted, next) ← op.exec shuffler now state
    let (trace, finish) ← next.run shuffler calls
    .ok (⟨op, now, accepted, op.resolve state.round⟩ :: trace, finish)

theorem RoundState.worksOff (shuffler : Shuffler ρ) :
    Transition.WorksOff (RoundStep shuffler) (fun state call => call.1.exec shuffler call.2 state)
      (fun state call accepted _ => ⟨call.1, call.2, accepted, call.1.resolve state.round⟩)
      (RoundState.run shuffler) where
  nil _ := rfl
  cons _ _ _ := rfl
  move done := ⟨done, rfl⟩

theorem RoundState.run_steps {state finish : RoundState ρ} {calls : List (RoundOp × Time)}
    {trace : List RoundCall} (ran : state.run shuffler calls = .ok (trace, finish)) :
    Transition.Steps (RoundStep shuffler) state trace finish :=
  (RoundState.worksOff shuffler).steps ran

end Doudizhu.Game
