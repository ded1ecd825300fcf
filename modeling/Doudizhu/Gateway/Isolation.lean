import Doudizhu.Gateway.RoomRuns

/-! # Rooms do not see each other

A landlord call, a play or a pass reads and writes the room of its player only.  What it
does is a `RoomEffect` on that room, which with the answer is found from the room alone
(`request_local`), and effects on two rooms may be exchanged (`apply_comm`).  A redeal is
left out: it draws from the generator that all rooms share.
-/

namespace Doudizhu

variable {ρ : Type} {shuffler : Game.Shuffler ρ}

namespace Game

/-- The call is the third, and nobody has called: the round would start again. -/
def GameRound.Redeals (round : GameRound) (seat : Nat) (call : Bool) : Prop :=
  round.phase = .callLandlord ∧ seat = round.currentSeat ∧ round.callCount + 1 = 3 ∧
    round.lastCaller = none ∧ call = false

/-- Calls of a seat that do not deal again. -/
def RoundOp.Steady (round : GameRound) : RoundOp → Prop
  | .callLandlord seat call => ¬ round.Redeals seat call
  | .playCards _ _ | .pass _ => True
  | .timeout => False

theorem callLandlord_steady {round next : GameRound} {seat : Nat} {call accepted : Bool} {now : Time}
    {random after : ρ} (steady : ¬ round.Redeals seat call)
    (done : round.callLandlord shuffler seat call now random = .ok (accepted, next, after)) :
    after = random ∧
      ∀ other, round.callLandlord shuffler seat call now other = .ok (accepted, next, other) := by
  unfold GameRound.callLandlord at done ⊢
  by_cases refused : round.phase ≠ .callLandlord ∨ seat ≠ round.currentSeat
  · rw [if_pos refused] at done
    cases done
    exact ⟨rfl, fun other => if_pos refused⟩
  simp only [refused, if_false] at done ⊢
  split at done
  · next third =>
    simp only [third, if_true]
    split at done
    · next nobody =>
      -- the branch of the redeal
      rw [not_or, not_not, not_not] at refused
      cases call with
      | false => exact absurd ⟨refused.1, refused.2, third, nobody, rfl⟩ steady
      | true => cases nobody
    · next landlord called =>
      obtain ⟨hand, read, done⟩ := ExceptLoop.bind_ok.mp done
      obtain ⟨dealt, written, done⟩ := ExceptLoop.bind_ok.mp done
      cases done
      refine ⟨rfl, fun other => ?_⟩
      simp only [third, called] at read written ⊢
      exact ExceptLoop.bind_ok.mpr ⟨hand, read, ExceptLoop.bind_ok.mpr ⟨dealt, written, rfl⟩⟩
  · next early =>
    cases done
    exact ⟨rfl, fun other => if_neg early⟩

/-- Such a call neither reads nor moves the generator. -/
theorem exec_steady {op : RoundOp} {now : Time} {round : GameRound} {random : ρ} {accepted : Bool}
    {state : RoundState ρ} (steady : op.Steady round)
    (done : op.exec shuffler now ⟨round, random⟩ = .ok (accepted, state)) :
    ∀ other, op.exec shuffler now ⟨round, other⟩ = .ok (accepted, ⟨state.round, other⟩) := by
  intro other
  cases op with
  | callLandlord seat call =>
    obtain ⟨⟨answer, next, after⟩, called, done⟩ := ExceptLoop.bind_ok.mp done
    cases done
    obtain ⟨_, anywhere⟩ := callLandlord_steady steady called
    simp only [RoundOp.exec, anywhere other, bind, Except.bind]
  | playCards seat cards =>
    obtain ⟨⟨answer, next⟩, played, done⟩ := ExceptLoop.bind_ok.mp done
    cases done
    simp only [RoundOp.exec, played, bind, Except.bind]
  | pass seat =>
    obtain ⟨⟨answer, next⟩, passed, done⟩ := ExceptLoop.bind_ok.mp done
    cases done
    simp only [RoundOp.exec, passed, bind, Except.bind]
  | timeout => exact steady.elim

end Game

namespace Gateway

open Game

/-! ## The requests -/

/-- Whose request an operation is. -/
def RoomOp.requester : RoomOp → Option PlayerId
  | .callLandlord _ _ player _ | .playCards _ _ player _ | .pass _ player => some player
  | _ => none

/-- The request is a landlord call that deals again in the player's room. -/
def RoomOp.Redeals (op : RoomOp) (manager : RoomManager ρ) : Prop :=
  match op with
  | .callLandlord _ _ player call => ∃ roomId room round,
      manager.playerRooms.lookup player = some roomId ∧
      manager.rooms.lookup roomId = some room ∧ room.round = some round ∧
      round.Redeals (room.seatOf player) call
  | _ => False

/-! ## Effects on a room -/

inductive RoomEffect where
  | nothing
  | put (next : Room)
  | remove

def RoomEffect.apply (effect : RoomEffect) (manager : RoomManager ρ) (roomId : RoomId)
    (room : Room) : RoomManager ρ :=
  match effect with
  | .nothing => manager
  | .put next => manager.putRoom roomId next
  | .remove => manager.removeRoom roomId room

/-- The player's room, as the index and the rooms give it. -/
structure Sees (manager : RoomManager ρ) (player : PlayerId) (roomId : RoomId) (room : Room) :
    Prop where
  indexed : manager.playerRooms.lookup player = some roomId
  found : manager.rooms.lookup roomId = some room

/-- A player's room, the index entry and the offline mark are as they were. -/
structure Untouched (before after : RoomManager ρ) (player : PlayerId) (roomId : RoomId) : Prop where
  room : after.rooms.lookup roomId = before.rooms.lookup roomId
  index : after.playerRooms.lookup player = before.playerRooms.lookup player
  offline : after.offlineSince.lookup player = before.offlineSince.lookup player

theorem Untouched.sees {before after : RoomManager ρ} {player : PlayerId} {roomId : RoomId}
    {room : Room} (same : Untouched before after player roomId)
    (sees : Sees before player roomId room) : Sees after player roomId room where
  indexed := same.index.trans sees.indexed
  found := same.room.trans sees.found

section Effects

variable (manager : RoomManager ρ) {here there : RoomId} {room other : Room}

theorem apply_untouched (effect : RoomEffect) {player : PlayerId} (apart : there ≠ here)
    (outside : player ∉ room.playerIds) :
    Untouched manager (effect.apply manager here room) player there := by
  cases effect with
  | nothing => exact ⟨rfl, rfl, rfl⟩
  | put next => exact ⟨by simp [RoomEffect.apply, RoomManager.putRoom, apart], rfl, rfl⟩
  | remove =>
    refine ⟨?_, ?_, ?_⟩
    · rw [RoomEffect.apply, find_removeRoom, if_neg apart]
    · rw [RoomEffect.apply, find_removeRoom_player, if_neg outside]
    · rw [RoomEffect.apply, find_removeRoom_offline, if_neg outside]

/-- What is done to one room and what is done to another may be exchanged. -/
theorem apply_comm (first second : RoomEffect) (apart : here ≠ there) :
    second.apply (first.apply manager here room) there other =
      first.apply (second.apply manager there other) here room := by
  have away : there ≠ here := apart.symm
  cases first with
  | nothing => rfl
  | put next =>
    cases second with
    | nothing => rfl
    | put last =>
      simp only [RoomEffect.apply, RoomManager.putRoom]
      rw [Finmap.insert_insert_of_ne _ apart]
    | remove =>
      simp only [RoomEffect.apply, RoomManager.putRoom, RoomManager.removeRoom]
      rw [UnorderedMap.erase_insert_ne _ _ away]
  | remove =>
    cases second with
    | nothing => rfl
    | put last =>
      simp only [RoomEffect.apply, RoomManager.putRoom, RoomManager.removeRoom]
      rw [UnorderedMap.erase_insert_ne _ _ apart]
    | remove =>
      simp only [RoomEffect.apply, RoomManager.removeRoom]
      rw [Finmap.erase_erase, UnorderedMap.eraseAll_comm, UnorderedMap.eraseAll_comm
        manager.offlineSince]

end Effects

/-! ## What a request does -/

section Requests

variable {player : PlayerId} {roomId : RoomId} {room : Room}

/-- The shared part of the requests looks at the player's room only. -/
theorem act_local (shuffler : Shuffler ρ) (random : ρ) (sound : RoomInv roomId room)
    (roundNow now : Time) (op : Nat → RoundOp)
    (steady : ∀ round ∈ room.round, (op (room.seatOf player)).Steady round) :
    (∀ manager : RoomManager ρ, Sees manager player roomId room →
      manager.act shuffler roundNow now player op = .ok (none, manager)) ∨
    ∃ acted : RoomManager.Acted, acted.room.id = roomId ∧ acted.room.playerIds = room.playerIds ∧
      ∀ manager : RoomManager ρ, Sees manager player roomId room →
        manager.act shuffler roundNow now player op =
          .ok (some acted, manager.putRoom roomId acted.room) := by
  cases started : room.round with
  | none =>
    refine .inl fun manager sees => ?_
    simp only [RoomManager.act, sees.indexed, RoomManager.roomAt, sees.found, started, bind,
      Except.bind]
  | some round =>
    obtain ⟨three, _, log, ready⟩ := sound.shape.playing started
    have before : RoundInv log (Game.RoundState.mk round random).round := ready
    obtain ⟨⟨accepted, state⟩, done⟩ : ∃ answer,
        (op (room.seatOf player)).exec shuffler roundNow ⟨round, random⟩ = .ok answer :=
      exec_ok before _
    have anywhere := exec_steady (steady round started) done
    have keptThree : (room.keep state.round accepted now).playerIds.length = 3 := by simp [three]
    refine .inr ⟨⟨roomId, room.keep state.round accepted now, state.round, room.seatOf player, accepted,
      room.playerIds⟩, by simp [sound.id], by simp, fun manager sees => ?_⟩
    simp only [RoomManager.act, sees.indexed, RoomManager.roomAt, sees.found, started, bind,
      Except.bind, anywhere manager.random, threePlayers_ok keptThree, keep_playerIds]
    rfl

/-- The answer to a request and what it does are found from the player's room. -/
theorem request_local (shuffler : Shuffler ρ) (random : ρ) (sound : RoomInv roomId room)
    {op : RoomOp} (request : op.requester = some player)
    (steady : ∀ startedAt now call, op = .callLandlord startedAt now player call →
      ∀ round ∈ room.round, ¬ round.Redeals (room.seatOf player) call) :
    ∃ answer effect, ∀ manager : RoomManager ρ, Sees manager player roomId room →
      op.exec shuffler manager = .ok (answer, RoomEffect.apply effect manager roomId room) := by
  cases op with
  | callLandlord startedAt now caller call =>
    cases request
    obtain idle | ⟨acted, _, _, done⟩ := act_local shuffler random sound startedAt now
      (.callLandlord · call) (steady startedAt now call rfl)
    · exact ⟨.called none, .nothing, fun manager sees => ExceptLoop.bind_ok.mpr
        ⟨(none, manager), ExceptLoop.bind_ok.mpr ⟨_, idle manager sees, rfl⟩, rfl⟩⟩
    · exact ⟨.called (some _), .put acted.room, fun manager sees => ExceptLoop.bind_ok.mpr
        ⟨(some _, _), ExceptLoop.bind_ok.mpr ⟨_, done manager sees, rfl⟩, rfl⟩⟩
  | playCards now endedAt caller cards =>
    cases request
    obtain idle | ⟨acted, own, players, done⟩ := act_local shuffler random sound now now
      (.playCards · cards) (fun _ _ => trivial)
    · exact ⟨.played none, .nothing, fun manager sees => ExceptLoop.bind_ok.mpr
        ⟨(none, manager), ExceptLoop.bind_ok.mpr ⟨_, idle manager sees, rfl⟩, rfl⟩⟩
    · by_cases finished : (decide (acted.round.phase = .settled) && acted.accepted) = true
      · have gone : ∀ manager : RoomManager ρ,
            (manager.putRoom roomId acted.room).removeRoom acted.room.id acted.room =
              manager.removeRoom roomId room := by
          intro manager
          rw [own]
          exact removeRoom_putRoom manager roomId acted.room manager.random players
        let result : PlayCardsResult :=
          ⟨acted.accepted, acted.round.currentSeat, decide (acted.round.phase = .settled),
            acted.room.settlements acted.round endedAt, acted.seat, acted.players⟩
        refine ⟨.played (some result), .remove, fun manager sees => ExceptLoop.bind_ok.mpr
          ⟨(some result, _), ExceptLoop.bind_ok.mpr ⟨_, done manager sees, ?_⟩, rfl⟩⟩
        rw [RoomEffect.apply, ← gone manager]
        exact if_pos finished
      · exact ⟨.played (some _), .put acted.room, fun manager sees => ExceptLoop.bind_ok.mpr
          ⟨(some _, _), ExceptLoop.bind_ok.mpr ⟨_, done manager sees, if_neg finished⟩, rfl⟩⟩
  | pass now caller =>
    cases request
    obtain idle | ⟨acted, _, _, done⟩ := act_local shuffler random sound now now .pass
      (fun _ _ => trivial)
    · exact ⟨.passed none, .nothing, fun manager sees => ExceptLoop.bind_ok.mpr
        ⟨(none, manager), ExceptLoop.bind_ok.mpr ⟨_, idle manager sees, rfl⟩, rfl⟩⟩
    · exact ⟨.passed (some _), .put acted.room, fun manager sees => ExceptLoop.bind_ok.mpr
        ⟨(some _, _), ExceptLoop.bind_ok.mpr ⟨_, done manager sees, rfl⟩, rfl⟩⟩
  | matchPlayer | reconnectInfo | roomState | markOnline | markOffline | timeoutExpired
  | cleanupIdle | cleanupExpired => cases request

/-- A request in a manager that runs reach: it returns what it does to the player's room. -/
theorem request_effect (shuffler : Shuffler ρ) {manager : RoomManager ρ} (holds : ManagerInv manager)
    (sees : Sees manager player roomId room) {op : RoomOp} (request : op.requester = some player)
    (steady : ¬ op.Redeals manager) :
    ∃ answer effect, ∀ other : RoomManager ρ, Sees other player roomId room →
      op.exec shuffler other = .ok (answer, RoomEffect.apply effect other roomId room) := by
  refine request_local shuffler manager.random (holds.room _ _ sees.found) request ?_
  rintro startedAt now call rfl round started redeals
  exact steady ⟨roomId, room, round, sees.indexed, sees.found, started, redeals⟩

end Requests

/-- Two requests by players of two rooms, neither of them a landlord call that deals again:
    in either order each gets the same answer, the manager ends up the same, and neither
    touches the other player's room, index entry or offline mark. -/
theorem rooms_isolated (shuffler : Shuffler ρ) (random : ρ) (ops : List RoomOp) :
    ∃ trace manager, RoomManager.run shuffler { random } ops = .ok (trace, manager) ∧
      ∀ (first second : RoomOp) (player other : PlayerId) (here there : RoomId),
        first.requester = some player → second.requester = some other →
        manager.playerRooms.lookup player = some here →
        manager.playerRooms.lookup other = some there → here ≠ there →
        ¬ first.Redeals manager → ¬ second.Redeals manager →
        ∃ answer reply afterFirst afterSecond finish,
          first.exec shuffler manager = .ok (answer, afterFirst) ∧
          second.exec shuffler afterFirst = .ok (reply, finish) ∧
          second.exec shuffler manager = .ok (reply, afterSecond) ∧
          first.exec shuffler afterSecond = .ok (answer, finish) ∧
          Untouched manager afterFirst other there ∧ Untouched manager afterSecond player here := by
  obtain ⟨trace, manager, ran, holds⟩ := run_sound shuffler (managerInv_empty random) ops
  refine ⟨trace, manager, ran, ?_⟩
  intro first second player other here there request secondRequest indexed otherIndexed apart steady
    secondSteady
  obtain ⟨room, found, member⟩ := holds.found indexed
  obtain ⟨otherRoom, otherFound, otherMember⟩ := holds.found otherIndexed
  obtain ⟨answer, effect, done⟩ := request_effect shuffler holds ⟨indexed, found⟩ request steady
  obtain ⟨reply, otherEffect, otherDone⟩ :=
    request_effect shuffler holds ⟨otherIndexed, otherFound⟩ secondRequest secondSteady
  -- no player is in two rooms
  have outside : other ∉ room.playerIds := fun inside =>
    apart (holds.unique found inside otherFound otherMember)
  have otherOutside : player ∉ otherRoom.playerIds := fun inside =>
    apart (holds.unique found member otherFound inside)
  have kept := apply_untouched manager effect apart.symm outside
  have otherKept := apply_untouched manager otherEffect apart otherOutside
  refine ⟨answer, reply, _, _, _, done manager ⟨indexed, found⟩, otherDone _ (kept.sees ⟨otherIndexed,
    otherFound⟩), otherDone manager ⟨otherIndexed, otherFound⟩, ?_, kept, otherKept⟩
  rw [apply_comm manager effect otherEffect apart]
  exact done _ (otherKept.sees ⟨indexed, found⟩)

end Gateway

end Doudizhu
