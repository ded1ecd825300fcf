import Doudizhu.Gateway.RoomMoves

/-! # Runs of the room manager

What holds after any operations, from the empty manager on: the representation invariant,
with which no access fails, and that the timer skips no overdue room.
-/

namespace Doudizhu.Gateway

open Game

variable {ρ : Type} {shuffler : Shuffler ρ}

/-- A call of an operation: the manager it found, and the answer. -/
structure RoomCall (ρ : Type) where
  op : RoomOp
  before : RoomManager ρ
  answer : RoomAnswer

def RoomStep (shuffler : Shuffler ρ) (before : RoomManager ρ) (call : RoomCall ρ)
    (after : RoomManager ρ) : Prop :=
  call.before = before ∧ call.op.exec shuffler before = .ok (call.answer, after)

/-- The operations, called one after another. -/
def RoomManager.run (shuffler : Shuffler ρ) (manager : RoomManager ρ) :
    List RoomOp → Except Fault (List (RoomCall ρ) × RoomManager ρ)
  | [] => .ok ([], manager)
  | op :: ops => do
    let (answer, next) ← op.exec shuffler manager
    let (trace, finish) ← next.run shuffler ops
    .ok (⟨op, manager, answer⟩ :: trace, finish)

theorem RoomManager.worksOff (shuffler : Shuffler ρ) :
    Transition.WorksOff (RoomStep shuffler) (fun manager op => op.exec shuffler manager)
      (fun manager op answer _ => ⟨op, manager, answer⟩) (RoomManager.run shuffler) where
  nil _ := rfl
  cons _ _ _ := rfl
  move done := ⟨rfl, done⟩

theorem RoomManager.run_steps {manager finish : RoomManager ρ} {ops : List RoomOp}
    {trace : List (RoomCall ρ)} (ran : manager.run shuffler ops = .ok (trace, finish)) :
    Transition.Steps (RoomStep shuffler) manager trace finish :=
  (RoomManager.worksOff shuffler).steps ran

/-- A step is an operation on a sound manager: it comes to moves. -/
theorem RoomStep.comes {before after : RoomManager ρ} {call : RoomCall ρ}
    (holds : ManagerInv before) (step : RoomStep shuffler before call after) :
    ∃ events, Comes shuffler before events call.answer.batches after := by
  obtain ⟨answer, next, events, done, comes, _⟩ := exec_comes shuffler holds call.op
  rw [step.2] at done
  cases done
  exact ⟨events, comes⟩

theorem RoomStep.ends {before after : RoomManager ρ} {call : RoomCall ρ}
    (holds : ManagerInv before) (step : RoomStep shuffler before call after) :
    ∀ batch ∈ call.answer.batches, ∃ roomId room, before.rooms.lookup roomId = some room ∧
      Ending shuffler before room batch call.op := by
  obtain ⟨answer, next, _, done, _, ends⟩ := exec_comes shuffler holds call.op
  rw [step.2] at done
  cases done
  exact ends

theorem managerInv_step {before after : RoomManager ρ} {call : RoomCall ρ}
    (holds : ManagerInv before) (step : RoomStep shuffler before call after) : ManagerInv after := by
  obtain ⟨events, comes⟩ := step.comes holds
  exact managerInv_moves holds comes.moves

/-- Every call of a run found a sound manager. -/
theorem sound_at {start finish : RoomManager ρ} {trace : List (RoomCall ρ)} {call : RoomCall ρ}
    (run : Transition.Steps (RoomStep shuffler) start trace finish) (initial : ManagerInv start)
    (member : call ∈ trace) :
    ∃ before after, ManagerInv before ∧ RoomStep shuffler before call after :=
  run.step_of_mem ManagerInv initial (fun _ _ _ holds step => managerInv_step holds step) member

/-- Operations on a sound manager return, and leave it sound. -/
theorem run_sound (shuffler : Shuffler ρ) {manager : RoomManager ρ} (holds : ManagerInv manager)
    (ops : List RoomOp) :
    ∃ trace finish, manager.run shuffler ops = .ok (trace, finish) ∧ ManagerInv finish := by
  refine (RoomManager.worksOff shuffler).goes (fun _ manager => ManagerInv manager) ?_ holds ops
  intro _ before op holds
  obtain ⟨answer, next, events, done, comes, _⟩ := exec_comes shuffler holds op
  exact ⟨answer, next, done, managerInv_moves holds comes.moves⟩

/-- Whatever is called, with whatever arguments and in whatever order the maps are
    visited: every access succeeds, and the maps agree. -/
theorem representation_invariant (shuffler : Shuffler ρ) (random : ρ) (ops : List RoomOp) :
    ∃ trace finish, RoomManager.run shuffler { random } ops = .ok (trace, finish) ∧
      ManagerInv finish ∧
      ∀ roomId room player, finish.rooms.lookup roomId = some room → player ∈ room.playerIds →
        room.seatOf player < 3 := by
  obtain ⟨trace, finish, ran, sound⟩ := run_sound shuffler (managerInv_empty random) ops
  exact ⟨trace, finish, ran, sound, fun roomId room _ found member =>
    (sound.room roomId room found).seat_lt member⟩

/-- No round is stuck.  A round that has not settled accepts `timeout`, one in play makes
    progress with every call it accepts, of which there are 162 at most; and the timer has
    an action for every overdue room. -/
theorem no_stuck_round (shuffler : Shuffler ρ) :
    (∀ (round : GameRound) (random : ρ) (calls : List (RoundOp × Time)), ∃ trace finish,
      (RoundState.start shuffler round random).run shuffler calls = .ok (trace, finish) ∧
      (finish.round.phase = .callLandlord ∨ finish.round.phase = .playCards →
        ∀ now, ∃ next, RoundOp.timeout.exec shuffler now finish = .ok (true, next)) ∧
      (finish.round.phase = .playCards →
        (∀ op now next, RoundOp.exec shuffler op now finish = .ok (true, next) →
          next.round.progress < finish.round.progress) ∧
        ∀ later, ∃ laterTrace last, finish.run shuffler later = .ok (laterTrace, last) ∧
          laterTrace.countP RoundCall.accepted ≤ 162)) ∧
    ∀ (random : ρ) (ops : List RoomOp) (order : VisitOrder RoomId) (now : Time)
      (startedAt : RoomId → Time), ∃ trace finish actions next,
      RoomManager.run shuffler { random } ops = .ok (trace, finish) ∧
      finish.timeoutExpired shuffler order now startedAt = .ok (actions, next) ∧
      ∀ roomId room round, finish.rooms.lookup roomId = some room → room.round = some round →
        room.actionDeadline ≤ now →
        ∃ action ∈ actions, action.playerIds = room.playerIds ∧
          action.actorSeat = round.currentSeat := by
  constructor
  · intro round random calls
    obtain ⟨trace, finish, ran, holds⟩ := run_start shuffler round random calls
    refine ⟨trace, finish, ran, ?_, ?_⟩
    · intro phase now
      refine timeout_accepted holds ?_
      obtain calling | playing := phase
      · rw [calling]; decide
      · rw [playing]; decide
    · intro playing
      have begun : Begun finish.round := ⟨⟨_, holds⟩, .inl playing⟩
      refine ⟨?_, ?_⟩
      · intro op now next done
        obtain ⟨_, moved⟩ | ⟨refused, _⟩ := exec_cases done
        · exact (begun_move begun moved).2
        · cases refused
      · intro later
        obtain ⟨laterTrace, last, ranOn, _⟩ := run_ok shuffler holds later
        have few := accepted_le (RoundState.run_steps ranOn) begun
        have start := progress_of_run ran playing
        exact ⟨laterTrace, last, ranOn, by omega⟩
  · intro random ops order now startedAt
    obtain ⟨trace, finish, ran, sound⟩ :=
      run_sound shuffler (managerInv_empty random) ops
    obtain ⟨actions, next, done, loop⟩ := timeoutExpired_loop shuffler sound order now startedAt
    refine ⟨trace, finish, actions, next, ran, done, ?_⟩
    intro roomId room round found started late
    have visited : roomId ∈ order.visit finish.rooms.keys :=
      (order.mem_visit _ _).mpr (UnorderedMap.mem_keys_of_find found)
    exact loop.overdue roomId visited room round found started late

/-! ## What moves of rounds keep -/

/-- All rounds that are played have the property. -/
def RoomManager.AllRounds (manager : RoomManager ρ) (Holds : GameRound → Prop) : Prop :=
  ∀ roomId room round, manager.rooms.lookup roomId = some room → room.round = some round → Holds round

/-- A property that rounds have when they start, and keep. -/
structure RoundRule (shuffler : Shuffler ρ) (Holds : GameRound → Prop) : Prop where
  start : ∀ random, Holds (GameRound.start shuffler {} random).1
  moved : ∀ {now : Time} {before after : Game.RoundState ρ} {move : RoundOp}, Holds before.round →
    Move shuffler now before move after → Holds after.round

section Rules

variable {Holds : GameRound → Prop} {before after : RoomManager ρ}

theorem RoundRule.exec {op : RoundOp} {now : Time} {round : GameRound} {random : ρ} {accepted : Bool}
    {state : Game.RoundState ρ} (rule : RoundRule shuffler Holds) (holds : Holds round)
    (done : op.exec shuffler now ⟨round, random⟩ = .ok (accepted, state)) : Holds state.round := by
  obtain ⟨_, moved⟩ | ⟨_, rfl⟩ := exec_cases done
  · have before : Holds (Game.RoundState.mk round random).round := holds
    exact rule.moved before moved
  · exact holds

/-- The room that a move is about is looked at, the others stay. -/
theorem RoundRule.roomMove {event : RoomEvent} (rule : RoundRule shuffler Holds)
    (all : before.AllRounds Holds) (move : RoomMove shuffler before event after) :
    after.AllRounds Holds := by
  intro other room round found started
  by_cases own : event.roomId = some other
  · cases move with
    | joined _ _ _ _ _ begun rooms =>
      cases own
      rw [rooms, UnorderedMap.find_insert, if_pos rfl] at found
      cases found
      obtain ⟨random, rfl⟩ := begun round started
      exact rule.start random
    | moved present began done _ _ _ now =>
      cases own
      simp only [RoomManager.putRoom, UnorderedMap.find_insert, if_true] at found
      cases found
      rw [now] at started
      cases started
      exact rule.exec (all _ _ _ present began) done
    | @settled roomId old =>
      cases own
      have gone := find_removeRoom before other old other
      rw [if_pos rfl] at gone
      cases gone.symm.trans found
    | @idle roomId old | @expired roomId old =>
      cases own
      have gone := find_removeRoom (before.stopWaiting old) other old other
      rw [if_pos rfl] at gone
      cases gone.symm.trans found
    | online | offline => cases own
  · rw [move_other move own] at found
    exact all other room round found started

theorem allRounds_empty (random : ρ) : ({ random } : RoomManager ρ).AllRounds Holds := by
  intro roomId room round found
  simp at found

theorem RoundRule.step {call : RoomCall ρ} (rule : RoundRule shuffler Holds) (sound : ManagerInv before)
    (all : before.AllRounds Holds) (step : RoomStep shuffler before call after) :
    after.AllRounds Holds := by
  obtain ⟨events, comes⟩ := step.comes sound
  exact comes.moves.invariant (fun manager => manager.AllRounds Holds) all
    fun _ _ _ all move => rule.roomMove all move

end Rules

end Doudizhu.Gateway
