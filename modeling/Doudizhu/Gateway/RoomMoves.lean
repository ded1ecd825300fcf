import Doudizhu.Gateway.RoomInvariant
import Doudizhu.Game.RoundProgress
import Doudizhu.Lib.Steps
import Doudizhu.Lib.ExceptLoop

/-! # What an operation does to the rooms

Every operation of `RoomManager` is a sequence of moves, each on one room or one player;
a timer loop is a longer one.  `exec_comes` reads all operations as sequences of
`RoomMove`, once, and shows on the way that none of their accesses fails.
-/

namespace Doudizhu.Gateway

open Game

variable {ρ : Type} {shuffler : Shuffler ρ}

/-! ## The moves -/

inductive RoomEvent where
  | joined (player : PlayerId) (roomId : RoomId)
  | moved (roomId : RoomId)
  | settled (roomId : RoomId) (entries : List SettlementEntry)
  | closed (roomId : RoomId) (entries : List SettlementEntry)
  | online (player : PlayerId)
  | offline (player : PlayerId)

/-- The room an event is about. -/
def RoomEvent.roomId : RoomEvent → Option RoomId
  | .joined _ roomId | .moved roomId | .settled roomId _ | .closed roomId _ => some roomId
  | .online _ | .offline _ => none

/-- The settlement batch that leaves with an event. -/
def RoomEvent.batches : RoomEvent → List (List SettlementEntry)
  | .settled _ entries | .closed _ entries => if entries = [] then [] else [entries]
  | _ => []

theorem batches_nonempty {event : RoomEvent} {batch : List SettlementEntry}
    (given : batch ∈ event.batches) : batch ≠ [] := by
  cases event with
  | settled roomId entries | closed roomId entries =>
    simp only [RoomEvent.batches] at given
    split at given
    · cases given
    · next nonempty => exact List.mem_singleton.mp given ▸ nonempty
  | joined | moved | online | offline => cases given

/-- An answer leaves empty settlements out, and so does the event. -/
theorem batches_eq (entries : List SettlementEntry) :
    (if entries = [] then [] else [entries]) = [entries].filter (· ≠ []) := by
  by_cases empty : entries = [] <;> simp [empty]

inductive RoomMove (shuffler : Shuffler ρ) : RoomManager ρ → RoomEvent → RoomManager ρ → Prop where
  | joined {manager next : RoomManager ρ} {player : PlayerId} {roomId : RoomId}
      {room joined : Room} :
      Waiting manager roomId room →
      manager.rooms.lookup roomId = some room ∨
        (manager.rooms.lookup roomId = none ∧ manager.nextRoomId ≤ roomId) →
      manager.playerRooms.lookup player = none →
      joined.playerIds = room.playerIds ++ [player] → RoomInv roomId joined →
      (∀ round ∈ joined.round, ∃ random : ρ, round = (GameRound.start shuffler {} random).1) →
      next.rooms = manager.rooms.insert roomId joined →
      next.playerRooms = manager.playerRooms.insert player roomId →
      next.offlineSince = manager.offlineSince →
      roomId < next.nextRoomId → manager.nextRoomId ≤ next.nextRoomId →
      next.waitingRoomId = (if joined.round = none then some roomId else none) →
      RoomMove shuffler manager (.joined player roomId) next
  | moved {manager : RoomManager ρ} {roomId : RoomId} {room next : Room} {round : GameRound}
      {op : RoundOp} {now : Time} {accepted : Bool} {state : Game.RoundState ρ} :
      manager.rooms.lookup roomId = some room → room.round = some round →
      op.exec shuffler now ⟨round, manager.random⟩ = .ok (accepted, state) →
      state.round.phase ≠ .settled → next.id = room.id → next.playerIds = room.playerIds →
      next.round = some state.round →
      RoomMove shuffler manager (.moved roomId)
        { manager.putRoom roomId next with random := state.random }
  | settled {manager : RoomManager ρ} {roomId : RoomId} {room : Room} {round : GameRound}
      {op : RoundOp} {now endedAt : Time} {accepted : Bool} {state : Game.RoundState ρ} :
      manager.rooms.lookup roomId = some room → room.round = some round →
      op.exec shuffler now ⟨round, manager.random⟩ = .ok (accepted, state) →
      state.round.phase = .settled →
      RoomMove shuffler manager (.settled roomId (room.settlements state.round endedAt))
        { manager.removeRoom roomId room with random := state.random }
  | idle {manager : RoomManager ρ} {roomId : RoomId} {room : Room} :
      manager.rooms.lookup roomId = some room → room.round = none →
      RoomMove shuffler manager (.closed roomId [])
        ((manager.stopWaiting room).removeRoom roomId room)
  | expired {manager : RoomManager ρ} {roomId : RoomId} {room : Room} {player : PlayerId}
      {since now : Time} :
      manager.rooms.lookup roomId = some room → player ∈ room.playerIds →
      manager.offlineSince.lookup player = some since → now - since ≥ seconds 300 →
      RoomMove shuffler manager (.closed roomId (room.expiredSettlements player now))
        ((manager.stopWaiting room).removeRoom roomId room)
  | online {manager : RoomManager ρ} {player : PlayerId} :
      RoomMove shuffler manager (.online player) (manager.markOnline player)
  | offline {manager : RoomManager ρ} {player : PlayerId} {now : Time} :
      RoomMove shuffler manager (.offline player) (manager.markOffline player now)

/-- The round after a call is sound. -/
theorem round_sound {manager : RoomManager ρ} {roomId : RoomId} {room : Room} {round : GameRound}
    {op : RoundOp} {now : Time} {accepted : Bool} {state : Game.RoundState ρ}
    (holds : ManagerInv manager) (found : manager.rooms.lookup roomId = some room)
    (started : room.round = some round)
    (done : op.exec shuffler now ⟨round, manager.random⟩ = .ok (accepted, state)) :
    ∃ log, RoundInv log state.round := by
  obtain ⟨_, _, log, sound⟩ := (holds.room _ _ found).shape.playing started
  have step : RoundStep shuffler ⟨round, manager.random⟩ ⟨op, now, accepted, op.resolve round⟩ state :=
    ⟨done, rfl⟩
  have before : RoundInv log (Game.RoundState.mk round manager.random).round := sound
  exact ⟨_, roundInv_step before step⟩

theorem managerInv_move {before after : RoomManager ρ} {event : RoomEvent}
    (holds : ManagerInv before) (move : RoomMove shuffler before event after) : ManagerInv after := by
  cases move with
  | joined waits _ absent players sound _ rooms index offline fresh grows waiting =>
    exact holds.join waits absent players sound rooms index offline fresh grows waiting
  | moved found started done unsettled sameId players after =>
    have sound := holds.room _ _ found
    have three := (sound.shape.playing started).1
    refine (holds.putRound found (by simp [started]) ⟨sameId.trans sound.id, ?_, ?_⟩ (by simp [after])
      players).withRandom _
    · exact players ▸ sound.nodup
    · rw [Room.Shape, after, players]
      exact ⟨three, unsettled, round_sound holds found started done⟩
  | settled found started done settled =>
    exact (holds.dropPlaying found (by simp [started])).withRandom _
  | idle found => exact holds.dropRoom found
  | expired found => exact holds.dropRoom found
  | online => exact holds.markOnline _
  | offline => exact holds.markOffline _ _

/-- A move leaves the other rooms alone. -/
theorem move_other {before after : RoomManager ρ} {event : RoomEvent} {other : RoomId}
    (move : RoomMove shuffler before event after) (differ : event.roomId ≠ some other) :
    after.rooms.lookup other = before.rooms.lookup other := by
  have apart : ∀ {roomId : RoomId}, some roomId ≠ some other → other ≠ roomId :=
    fun differ same => differ (congrArg some same.symm)
  cases move with
  | joined _ _ _ _ _ _ rooms =>
    rw [rooms, UnorderedMap.find_insert, if_neg (apart differ)]
  | moved => exact (UnorderedMap.find_insert ..).trans (if_neg (apart differ))
  | settled => exact (UnorderedMap.find_erase ..).trans (if_neg (apart differ))
  | idle | expired =>
    rw [find_removeRoom, if_neg (apart differ), stopWaiting_eq]
  | online => rfl
  | offline =>
    unfold RoomManager.markOffline
    split <;> rfl

/-- `manager` makes the moves of `events`. -/
abbrev RoomMoves (shuffler : Shuffler ρ) (manager : RoomManager ρ) (events : List RoomEvent)
    (next : RoomManager ρ) : Prop :=
  Transition.Steps (RoomMove shuffler) manager events next

theorem managerInv_moves {before after : RoomManager ρ} {events : List RoomEvent}
    (holds : ManagerInv before) (moves : RoomMoves shuffler before events after) :
    ManagerInv after :=
  moves.invariant ManagerInv holds fun _ _ _ holds move => managerInv_move holds move

theorem moves_other {before after : RoomManager ρ} {events : List RoomEvent} {other : RoomId}
    (moves : RoomMoves shuffler before events after)
    (differ : other ∉ events.filterMap RoomEvent.roomId) :
    after.rooms.lookup other = before.rooms.lookup other := by
  induction moves with
  | refl => rfl
  | snoc _ move inductionHypothesis =>
    rw [List.filterMap_append, List.mem_append, not_or] at differ
    rw [move_other move, inductionHypothesis differ.1]
    intro about
    exact differ.2 (List.mem_filterMap.mpr ⟨_, List.mem_singleton_self _, about⟩)

/-! ## Calls on a round -/

/-- What was last put in a room does not matter once the room is erased. -/
theorem removeRoom_putRoom (manager : RoomManager ρ) (roomId : RoomId) (put : Room) (random : ρ)
    {gone room : Room} (players : gone.playerIds = room.playerIds) :
    RoomManager.removeRoom { manager.putRoom roomId put with random } roomId gone =
      { manager.removeRoom roomId room with random } := by
  have rooms : (manager.rooms.insert roomId put).erase roomId = manager.rooms.erase roomId := by
    apply Finmap.ext_lookup
    intro other
    simp only [UnorderedMap.find_erase, UnorderedMap.find_insert]
    split <;> rfl
  simp only [RoomManager.removeRoom, RoomManager.putRoom, players, rooms]

theorem refreshDeadline_eq (room : Room) (now : Time) :
    ∃ deadline, room.refreshDeadline now = { room with actionDeadline := deadline } := by
  unfold Room.refreshDeadline
  split
  · exact ⟨_, rfl⟩
  · split
    · exact ⟨_, rfl⟩
    · split <;> exact ⟨_, rfl⟩

section Keeping

variable (room : Room) (round : GameRound) (accepted : Bool) (now : Time)

@[simp] theorem refreshDeadline_id : (room.refreshDeadline now).id = room.id := by
  obtain ⟨deadline, equal⟩ := refreshDeadline_eq room now
  rw [equal]

@[simp] theorem refreshDeadline_playerIds :
    (room.refreshDeadline now).playerIds = room.playerIds := by
  obtain ⟨deadline, equal⟩ := refreshDeadline_eq room now
  rw [equal]

@[simp] theorem refreshDeadline_round : (room.refreshDeadline now).round = room.round := by
  obtain ⟨deadline, equal⟩ := refreshDeadline_eq room now
  rw [equal]

@[simp] theorem keep_id : (room.keep round accepted now).id = room.id := by
  cases accepted <;> simp [Room.keep]

@[simp] theorem keep_playerIds : (room.keep round accepted now).playerIds = room.playerIds := by
  cases accepted <;> simp [Room.keep]

@[simp] theorem keep_round : (room.keep round accepted now).round = some round := by
  cases accepted <;> simp [Room.keep]

end Keeping

/-- What `act` did: `room` and `round` are those of the player before, `state` the round
    and the generator after. -/
structure ActedAs (shuffler : Shuffler ρ) (manager : RoomManager ρ) (roundNow now : Time)
    (player : PlayerId) (op : Nat → RoundOp) (acted : RoomManager.Acted) (next : RoomManager ρ)
    (room : Room) (round : GameRound) (state : RoundState ρ) : Prop where
  indexed : manager.playerRooms.lookup player = some acted.roomId
  found : manager.rooms.lookup acted.roomId = some room
  member : player ∈ room.playerIds
  started : room.round = some round
  seat : acted.seat = room.seatOf player
  done : (op acted.seat).exec shuffler roundNow ⟨round, manager.random⟩ = .ok (acted.accepted, state)
  moved : acted.round = state.round
  kept : acted.room = room.keep state.round acted.accepted now
  players : acted.players = room.playerIds
  after : next = { manager.putRoom acted.roomId acted.room with random := state.random }

/-- `act` finds no round to call, or it makes the call; its accesses all succeed. -/
theorem act_spec (shuffler : Shuffler ρ) {manager : RoomManager ρ} (holds : ManagerInv manager)
    (roundNow now : Time) (player : PlayerId) (op : Nat → RoundOp) :
    manager.act shuffler roundNow now player op = .ok (none, manager) ∨
      ∃ acted next room round state,
        manager.act shuffler roundNow now player op = .ok (some acted, next) ∧
        ActedAs shuffler manager roundNow now player op acted next room round state := by
  unfold RoomManager.act
  cases indexed : manager.playerRooms.lookup player with
  | none => exact .inl rfl
  | some roomId =>
    obtain ⟨room, found, member⟩ := holds.found indexed
    simp only [RoomManager.roomAt, found, bind, Except.bind]
    cases started : room.round with
    | none => exact .inl rfl
    | some round =>
      -- a room with a round is full, and its round can take any call
      obtain ⟨three, unsettled, log, sound⟩ := (holds.room roomId room found).shape.playing started
      obtain ⟨⟨accepted, state⟩, done⟩ :
          ∃ answer, (op (room.seatOf player)).exec shuffler roundNow ⟨round, manager.random⟩ =
            .ok answer := exec_ok sound _
      have keptThree : (room.keep state.round accepted now).playerIds.length = 3 := by simp [three]
      simp only [done, threePlayers_ok keptThree]
      exact .inr ⟨_, _, room, round, state, rfl, ⟨indexed, found, member, started, rfl, done, rfl, rfl,
        keep_playerIds .., rfl⟩⟩

section Acting

variable {manager next : RoomManager ρ} {roundNow now : Time} {player : PlayerId}
  {op : Nat → RoundOp} {acted : RoomManager.Acted} {room : Room} {round : GameRound}
  {state : RoundState ρ}

theorem ActedAs.unsettled_before (holds : ManagerInv manager)
    (spec : ActedAs shuffler manager roundNow now player op acted next room round state) :
    round.phase ≠ .settled :=
  ((holds.room _ _ spec.found).shape.playing spec.started).2.1

/-- The round after a call is sound. -/
theorem ActedAs.sound (holds : ManagerInv manager)
    (spec : ActedAs shuffler manager roundNow now player op acted next room round state) :
    ∃ log, RoundInv log state.round := by
  obtain ⟨_, _, log, sound⟩ := (holds.room _ _ spec.found).shape.playing spec.started
  have step : RoundStep shuffler ⟨round, manager.random⟩
      ⟨op acted.seat, roundNow, acted.accepted, (op acted.seat).resolve round⟩ state :=
    ⟨spec.done, rfl⟩
  have before : RoundInv log (Game.RoundState.mk round manager.random).round := sound
  exact ⟨_, roundInv_step before step⟩

theorem ActedAs.seat_lt (holds : ManagerInv manager)
    (spec : ActedAs shuffler manager roundNow now player op acted next room round state) :
    acted.seat < 3 :=
  spec.seat ▸ (holds.room _ _ spec.found).seat_lt spec.member

/-- While the round goes on, the call is a move of the room. -/
theorem ActedAs.move
    (spec : ActedAs shuffler manager roundNow now player op acted next room round state)
    (unsettled : state.round.phase ≠ .settled) :
    RoomMove shuffler manager (.moved acted.roomId) next := by
  rw [spec.after]
  refine .moved spec.found spec.started spec.done unsettled ?_ ?_ ?_ <;> simp [spec.kept]

theorem ActedAs.entries
    (spec : ActedAs shuffler manager roundNow now player op acted next room round state)
    (endedAt : Time) :
    acted.room.settlements state.round endedAt = room.settlements state.round endedAt := by
  simp [Room.settlements, Room.settlementEntries, spec.kept]

/-- A play that settles the round takes the room away. -/
theorem ActedAs.settle
    (spec : ActedAs shuffler manager roundNow now player op acted next room round state)
    (settled : state.round.phase = .settled) (endedAt : Time) :
    RoomMove shuffler manager (.settled acted.roomId (acted.room.settlements state.round endedAt))
      { manager.removeRoom acted.roomId room with random := state.random } := by
  rw [spec.entries]
  exact .settled spec.found spec.started spec.done settled

/-- When the round has settled, erasing the room is erasing the room it was. -/
theorem ActedAs.removed (holds : ManagerInv manager)
    (spec : ActedAs shuffler manager roundNow now player op acted next room round state) :
    next.removeRoom acted.room.id acted.room =
      { manager.removeRoom acted.roomId room with random := state.random } := by
  have sameId : acted.room.id = acted.roomId := by
    simp [spec.kept, (holds.room _ _ spec.found).id]
  have samePlayers : acted.room.playerIds = room.playerIds := by simp [spec.kept]
  rw [spec.after, sameId]
  exact removeRoom_putRoom manager acted.roomId acted.room state.random samePlayers

end Acting

/-- A player who was in no room takes a place in the one that is open. -/
theorem Opened.move {manager base next : RoomManager ρ} {roomId : RoomId} {room joined : Room}
    {player : PlayerId} (opened : Opened manager base roomId room)
    (absent : manager.playerRooms.lookup player = none) (sameId : joined.id = room.id)
    (players : joined.playerIds = room.playerIds ++ [player]) (shape : joined.Shape)
    (begun : ∀ round ∈ joined.round, ∃ random : ρ, round = (GameRound.start shuffler {} random).1)
    (waiting : next.waitingRoomId = if joined.round = none then some roomId else none)
    (same : { next with waitingRoomId := base.waitingRoomId, random := base.random } =
      { base with playerRooms := base.playerRooms.insert player room.id }.putRoom roomId joined) :
    RoomMove shuffler manager (.joined player roomId) next := by
  have new : player ∉ room.playerIds := by
    rw [opened.waits.players, absent]
    intro none
    cases none
  have nodup : joined.playerIds.Nodup := by
    rw [players]
    exact opened.waits.nodup.append (List.nodup_singleton _) (List.disjoint_singleton.mpr new)
  obtain ⟨nextRoomId, waitingRoomId, rooms, playerRooms, offlineSince, random⟩ := next
  simp only [RoomManager.putRoom, RoomManager.mk.injEq] at same
  obtain ⟨rfl, _, rfl, rfl, rfl, _⟩ := same
  refine .joined opened.waits opened.place absent players ⟨sameId.trans opened.waits.id, nodup, shape⟩
    begun ?_ ?_ opened.offline opened.fresh opened.grows waiting
  · rw [opened.rooms, Finmap.insert_insert]
  · rw [opened.index, opened.waits.id]

/-! ## The operations -/

/-- `batch` settles the round of `room`, which the call `op` ended. -/
def Finished (shuffler : Shuffler ρ) (op : RoundOp) (now : Time) (room : Room)
    (batch : List SettlementEntry) : Prop :=
  ∃ round random state endedAt, room.round = some round ∧
    op.exec shuffler now ⟨round, random⟩ = .ok (true, state) ∧
    state.round.phase = .settled ∧ batch = room.settlements state.round endedAt

/-- `batch` settles the round of `room`, which ends at `now` because `player` has been
    offline for five minutes. -/
def Abandoned (manager : RoomManager ρ) (now : Time) (room : Room) (player : PlayerId)
    (batch : List SettlementEntry) : Prop :=
  ∃ since, player ∈ room.playerIds ∧ manager.offlineSince.lookup player = some since ∧
    now - since ≥ seconds 300 ∧ batch = room.expiredSettlements player now

/-- Why an operation gives out a batch about `room`. -/
def Ending (shuffler : Shuffler ρ) (manager : RoomManager ρ) (room : Room)
    (batch : List SettlementEntry) : RoomOp → Prop
  | .playCards now _ player cards =>
    Finished shuffler (.playCards (room.seatOf player) cards) now room batch
  | .timeoutExpired _ _ startedAt => Finished shuffler .timeout (startedAt room.id) room batch
  | .cleanupExpired _ now => ∃ player, Abandoned manager now room player batch
  | _ => False

/-- What every operation comes to: it returns, having made the moves of `events`, about
    each room once at most, and `batches` are the settlements that left with them. -/
structure Comes (shuffler : Shuffler ρ) (manager : RoomManager ρ) (events : List RoomEvent)
    (batches : List (List SettlementEntry)) (next : RoomManager ρ) : Prop where
  moves : RoomMoves shuffler manager events next
  once : (events.filterMap RoomEvent.roomId).Nodup
  batches : batches = events.flatMap RoomEvent.batches

theorem Comes.nothing (manager : RoomManager ρ) : Comes shuffler manager [] [] manager :=
  ⟨.refl, List.nodup_nil, rfl⟩

theorem Comes.single {manager next : RoomManager ρ} {event : RoomEvent}
    (move : RoomMove shuffler manager event next) :
    Comes shuffler manager [event] event.batches next := by
  refine ⟨.single move, ?_, by simp⟩
  cases event <;> simp [List.filterMap, RoomEvent.roomId]

theorem Comes.snoc {manager current next : RoomManager ρ} {events : List RoomEvent}
    {batches : List (List SettlementEntry)} {event : RoomEvent}
    (earlier : Comes shuffler manager events batches current)
    (move : RoomMove shuffler current event next)
    (new : ∀ roomId ∈ event.roomId, roomId ∉ events.filterMap RoomEvent.roomId) :
    Comes shuffler manager (events ++ [event]) (batches ++ event.batches) next where
  moves := earlier.moves.snoc move
  once := by
    rw [List.filterMap_append]
    refine earlier.once.append ?_ ?_
    · cases event <;> simp [List.filterMap, RoomEvent.roomId]
    · intro roomId before now
      obtain ⟨_, same, about⟩ := List.mem_filterMap.mp now
      rw [List.mem_singleton.mp same] at about
      exact new roomId about before
  batches := by
    rw [List.flatMap_append, List.flatMap_singleton, ← earlier.batches]

/-- A landlord call or a pass leaves the round open. -/
theorem unsettled_of_op {op : RoundOp} {now : Time} {before after : Game.RoundState ρ}
    {accepted : Bool} (done : op.exec shuffler now before = .ok (accepted, after))
    (unsettled : before.round.phase ≠ .settled)
    (noPlay : ∀ seat cards, op.resolve before.round ≠ .playCards seat cards) :
    after.round.phase ≠ .settled := by
  intro settled
  obtain ⟨_, moved⟩ | ⟨_, rfl⟩ := exec_cases done
  · obtain ⟨_, seat, cards, played⟩ := settled_move moved settled
    exact noPlay seat cards played
  · exact unsettled settled

/-- A query answers from the room and the round that the index names. -/
theorem seatedRound_spec {manager : RoomManager ρ} {player : PlayerId} {room : Room}
    {round : GameRound} {seat : Nat} (seated : manager.seatedRound player = some (room, round, seat)) :
    ∃ roomId, manager.rooms.lookup roomId = some room ∧ player ∈ room.playerIds ∧
      room.round = some round ∧ seat = room.seatOf player := by
  unfold RoomManager.seatedRound at seated
  split at seated
  · cases seated
  · next roomId indexed =>
    split at seated
    · cases seated
    · next found =>
      split at seated
      · cases seated
      · next started =>
        split at seated
        · next member =>
          cases seated
          exact ⟨roomId, found, member, started, rfl⟩
        · cases seated

/-- What holds of the timeout loop after `visited`. -/
structure TimeoutLoop (shuffler : Shuffler ρ) (now : Time) (startedAt : RoomId → Time)
    (manager : RoomManager ρ) (visited : List RoomId) (actions : List TimeoutAction)
    (current : RoomManager ρ) : Prop where
  moves : ∃ events, Comes shuffler manager events
    ((actions.map TimeoutAction.settlements).filter (· ≠ [])) current ∧
    ∀ roomId ∈ events.filterMap RoomEvent.roomId, roomId ∈ visited
  overdue : ∀ roomId ∈ visited, ∀ room round, manager.rooms.lookup roomId = some room →
    room.round = some round → room.actionDeadline ≤ now →
    ∃ action ∈ actions, action.playerIds = room.playerIds ∧ action.actorSeat = round.currentSeat
  ends : ∀ action ∈ actions, action.settlements ≠ [] → ∃ roomId room,
    manager.rooms.lookup roomId = some room ∧
    Finished shuffler .timeout (startedAt roomId) room action.settlements

/-- A room that is not overdue is left as it is. -/
theorem TimeoutLoop.skip {now : Time} {startedAt : RoomId → Time} {manager current : RoomManager ρ}
    {visited : List RoomId} {actions : List TimeoutAction}
    (loop : TimeoutLoop shuffler now startedAt manager visited actions current)
    {roomId : RoomId} (waits : ∀ room round, manager.rooms.lookup roomId = some room →
      room.round = some round → ¬ room.actionDeadline ≤ now) :
    TimeoutLoop shuffler now startedAt manager (visited ++ [roomId]) actions current := by
  obtain ⟨⟨events, comes, about⟩, overdue, ends⟩ := loop
  refine ⟨⟨events, comes, fun other member => List.mem_append_left _ (about other member)⟩, ?_, ends⟩
  intro other member room round found started late
  obtain before | same := List.mem_append.mp member
  · exact overdue other before room round found started late
  · rw [List.mem_singleton.mp same] at found
    exact absurd late (waits room round found started)

/-- An overdue room gets its action. -/
theorem TimeoutLoop.act {now : Time} {startedAt : RoomId → Time}
    {manager current next : RoomManager ρ} {visited : List RoomId} {actions : List TimeoutAction}
    (loop : TimeoutLoop shuffler now startedAt manager visited actions current)
    {roomId : RoomId} {room : Room} {round : GameRound} {action : TimeoutAction} {event : RoomEvent}
    (new : roomId ∉ visited) (found : manager.rooms.lookup roomId = some room)
    (started : room.round = some round) (move : RoomMove shuffler current event next)
    (about : event.roomId = some roomId)
    (batches : event.batches = [action.settlements].filter (· ≠ []))
    (ending : action.settlements ≠ [] →
      Finished shuffler .timeout (startedAt roomId) room action.settlements)
    (players : action.playerIds = room.playerIds) (actor : action.actorSeat = round.currentSeat) :
    TimeoutLoop shuffler now startedAt manager (visited ++ [roomId]) (actions ++ [action]) next := by
  obtain ⟨⟨events, comes, earlier⟩, overdue, ends⟩ := loop
  refine ⟨⟨events ++ [event], ?_, ?_⟩, ?_, ?_⟩
  -- the batch of the action is what its move gives out, if it is not empty
  · rw [List.map_append, List.filter_append, List.map_singleton, ← batches]
    refine comes.snoc move ?_
    intro other same member
    rw [about] at same
    cases same
    exact new (earlier roomId member)
  · intro other member
    rw [List.filterMap_append] at member
    obtain before | now := List.mem_append.mp member
    · exact List.mem_append_left _ (earlier other before)
    · obtain ⟨_, same, is⟩ := List.mem_filterMap.mp now
      rw [List.mem_singleton.mp same, about] at is
      -- the new event is about the room just visited
      cases is
      exact List.mem_append_right _ (List.mem_singleton_self _)
  · intro other member otherRoom otherRound otherFound otherStarted late
    obtain before | same := List.mem_append.mp member
    · obtain ⟨earlierAction, present, sound⟩ :=
        overdue other before otherRoom otherRound otherFound otherStarted late
      exact ⟨earlierAction, List.mem_append_left _ present, sound⟩
    · rw [List.mem_singleton.mp same, found] at otherFound
      cases otherFound
      rw [started] at otherStarted
      cases otherStarted
      exact ⟨action, List.mem_append_right _ (List.mem_singleton_self _), players, actor⟩
  · intro other member some
    obtain before | same := List.mem_append.mp member
    · exact ends other before some
    · rw [List.mem_singleton.mp same] at some ⊢
      exact ⟨roomId, room, found, ending some⟩

/-- What holds of the loop over idle rooms after `visited`. -/
def IdleLoop (shuffler : Shuffler ρ) (manager : RoomManager ρ) (visited : List RoomId)
    (current : RoomManager ρ) : Prop :=
  ∃ events, Comes shuffler manager events [] current ∧
    ∀ roomId ∈ events.filterMap RoomEvent.roomId, roomId ∈ visited

/-- What holds of the loop over expired players: the rooms it closed are gone, and who
    is still in a room is offline since when they were. -/
structure ExpiredLoop (shuffler : Shuffler ρ) (now : Time) (manager : RoomManager ρ)
    (rooms : List (List SettlementEntry)) (current : RoomManager ρ) : Prop where
  moves : ∃ events, Comes shuffler manager events rooms current ∧
    ∀ roomId ∈ events.filterMap RoomEvent.roomId, current.rooms.lookup roomId = none
  still : ∀ player roomId, current.playerRooms.lookup player = some roomId →
    current.offlineSince.lookup player = manager.offlineSince.lookup player
  ends : ∀ batch ∈ rooms, ∃ roomId room player, manager.rooms.lookup roomId = some room ∧
    Abandoned manager now room player batch

section Operations

variable (shuffler) {manager : RoomManager ρ} (holds : ManagerInv manager)

include holds

theorem callLandlord_comes (startedAt now : Time) (player : PlayerId) (call : Bool) :
    ∃ result next events,
      manager.callLandlord shuffler startedAt now player call = .ok (result, next) ∧
      Comes shuffler manager events [] next := by
  unfold RoomManager.callLandlord
  obtain done | ⟨acted, next, room, round, state, done, spec⟩ :=
    act_spec shuffler holds startedAt now player (.callLandlord · call)
  · simp only [done, bind, Except.bind]
    exact ⟨_, _, _, rfl, .nothing manager⟩
  · simp only [done, bind, Except.bind]
    have unsettled := unsettled_of_op spec.done (spec.unsettled_before holds) (by simp [RoundOp.resolve])
    exact ⟨_, _, _, rfl, .single (spec.move unsettled)⟩

theorem pass_comes (now : Time) (player : PlayerId) :
    ∃ result next events, manager.pass shuffler now player = .ok (result, next) ∧
      Comes shuffler manager events [] next := by
  unfold RoomManager.pass
  obtain done | ⟨acted, next, room, round, state, done, spec⟩ :=
    act_spec shuffler holds now now player .pass
  · simp only [done, bind, Except.bind]
    exact ⟨_, _, _, rfl, .nothing manager⟩
  · simp only [done, bind, Except.bind]
    have unsettled := unsettled_of_op spec.done (spec.unsettled_before holds) (by simp [RoundOp.resolve])
    exact ⟨_, _, _, rfl, .single (spec.move unsettled)⟩

theorem playCards_comes (now endedAt : Time) (player : PlayerId) (cards : List Card) :
    ∃ result next events,
      manager.playCards shuffler now endedAt player cards = .ok (result, next) ∧
      Comes shuffler manager events (RoomAnswer.played result).batches next ∧
      ∀ batch ∈ (RoomAnswer.played result).batches, ∃ roomId room,
        manager.rooms.lookup roomId = some room ∧
        Finished shuffler (.playCards (room.seatOf player) cards) now room batch := by
  unfold RoomManager.playCards
  obtain done | ⟨acted, next, room, round, state, done, spec⟩ :=
    act_spec shuffler holds now now player (.playCards · cards)
  · simp only [done, bind, Except.bind]
    exact ⟨_, _, _, rfl, .nothing manager, by simp [RoomAnswer.batches]⟩
  · simp only [done, bind, Except.bind, spec.moved]
    by_cases settled : state.round.phase = .settled
    -- a refused call leaves the round as it was, and that was not settled
    · have accepted : acted.accepted = true := by
        obtain ⟨yes, _⟩ | ⟨_, same⟩ := exec_cases spec.done
        · exact yes
        · rw [same] at settled
          exact absurd settled (spec.unsettled_before holds)
      simp only [settled, accepted, decide_true, Bool.and_self, if_true, spec.removed holds]
      refine ⟨_, _, _, rfl, .single (spec.settle settled endedAt), ?_⟩
      intro batch member
      simp only [RoomAnswer.batches] at member
      split at member
      · cases member
      · rw [List.mem_singleton.mp member, spec.entries]
        exact ⟨_, room, spec.found, round, _, state, endedAt, spec.started,
          spec.seat ▸ accepted ▸ spec.done, settled, rfl⟩
    · simp only [settled, decide_false, Bool.false_and, Bool.false_eq_true, if_false]
      exact ⟨_, _, _, rfl, .single (spec.move settled), by simp [RoomAnswer.batches]⟩

/-- The scan of the rooms finds the player's room exactly if the index names one. -/
theorem findPlayer_spec (order : VisitOrder RoomId) (player : PlayerId) :
    (∃ roomId room, manager.findPlayer order player = some (roomId, room) ∧
        manager.rooms.lookup roomId = some room ∧ player ∈ room.playerIds) ∨
      (manager.findPlayer order player = none ∧ manager.playerRooms.lookup player = none) := by
  unfold RoomManager.findPlayer
  cases scan : List.findSome? _ (order.visit manager.rooms.keys) with
  | some answer =>
    obtain ⟨roomId, _, hit⟩ := List.exists_of_findSome?_eq_some scan
    split at hit
    · cases hit
    · next room found =>
      split at hit
      · next member =>
        cases hit
        exact .inl ⟨roomId, room, rfl, found, member⟩
      · cases hit
  | none =>
    refine .inr ⟨rfl, ?_⟩
    cases indexed : manager.playerRooms.lookup player with
    | none => rfl
    | some roomId =>
      obtain ⟨room, found, member⟩ := holds.found indexed
      -- the scan visits the room of the index, so it cannot have missed it
      have visited : roomId ∈ order.visit manager.rooms.keys :=
        (order.mem_visit _ _).mpr (UnorderedMap.mem_keys_of_find found)
      have miss := List.findSome?_eq_none_iff.mp scan roomId visited
      simp [found, member] at miss

/-- A player who is in no room joins the one that is open. -/
theorem matchPlayer_move (order : VisitOrder RoomId) (now : Time) (player : PlayerId) :
    ∃ result next, manager.matchPlayer shuffler order now player = .ok (result, next) ∧
      (next = manager ∨ ∃ roomId, RoomMove shuffler manager (.joined player roomId) next) := by
  unfold RoomManager.matchPlayer
  obtain ⟨roomId, room, found, _⟩ | ⟨found, absent⟩ := findPlayer_spec holds order player
  · simp only [found]
    exact ⟨_, _, rfl, .inl rfl⟩
  · obtain ⟨roomId, room, opened⟩ := openWaitingRoom_spec holds now
    have present : (manager.openWaitingRoom now).rooms.lookup roomId = some room := by
      rw [opened.rooms, UnorderedMap.find_insert, if_pos rfl]
    simp only [found, RoomManager.waitingRoom, opened.waiting, RoomManager.roomAt, present, bind,
      Except.bind]
    split
    -- the third player starts the round
    · next three =>
      have players : Room.threePlayers { room with
          playerIds := room.playerIds ++ [player], lastActivity := now } =
          .ok (room.playerIds ++ [player]) := threePlayers_ok three
      simp only [players]
      have dealt : RoundInv {} (GameRound.start shuffler {} (manager.openWaitingRoom now).random).1 :=
        roundInv_start {} _
      refine ⟨_, _, rfl, .inr ⟨_, opened.move absent ?_ ?_ ?_ ?_ ?_ rfl⟩⟩
      · simp
      · simp
      · simp only [Room.Shape, refreshDeadline_round, refreshDeadline_playerIds]
        exact ⟨three, by simp [GameRound.start], {}, dealt⟩
      · intro round started
        exact ⟨_, by simpa using started.symm⟩
      · simp
    · next notThree =>
      have idle := opened.waits.idle
      have few := opened.waits.few
      rw [List.length_append, List.length_singleton] at notThree
      refine ⟨_, _, rfl, .inr ⟨_, opened.move absent ?_ ?_ ?_ ?_ ?_ rfl⟩⟩
      · rfl
      · rfl
      · simp only [Room.Shape, idle, List.length_append, List.length_singleton]
        omega
      · simp [idle]
      · simp [idle, RoomManager.putRoom]

theorem matchPlayer_comes (order : VisitOrder RoomId) (now : Time) (player : PlayerId) :
    ∃ result next events, manager.matchPlayer shuffler order now player = .ok (result, next) ∧
      Comes shuffler manager events [] next := by
  obtain ⟨result, next, done, rfl | ⟨roomId, move⟩⟩ := matchPlayer_move shuffler holds order now player
  · exact ⟨result, next, [], done, .nothing next⟩
  · exact ⟨result, next, _, done, .single move⟩

theorem reconnectInfo_ok (player : PlayerId) : ∃ info, manager.reconnectInfo player = .ok info := by
  unfold RoomManager.reconnectInfo
  split
  · exact ⟨_, rfl⟩
  · next room round seat seated =>
    obtain ⟨roomId, found, member, started, same⟩ := seatedRound_spec seated
    have inside : seat < 3 := same ▸ (holds.room _ _ found).seat_lt member
    simp only [GameRound.hand, inside, dite_true]
    exact ⟨_, rfl⟩

theorem roomState_ok (now : Time) (player : PlayerId) :
    ∃ state, manager.roomState now player = .ok state := by
  unfold RoomManager.roomState
  split
  · exact ⟨_, rfl⟩
  · next room round seat seated =>
    obtain ⟨roomId, found, member, started, same⟩ := seatedRound_spec seated
    have inside : seat < 3 := same ▸ (holds.room _ _ found).seat_lt member
    have three := ((holds.room _ _ found).shape.playing started).1
    simp only [threePlayers_ok three, GameRound.hand, inside, dite_true, bind, Except.bind]
    obtain ⟨first, second, third, players⟩ := List.length_eq_three.mp three
    simp [players, RoomManager.playerInfo, GameRound.hand, List.zipIdx, bind, Except.bind]
    exact ⟨_, rfl⟩

/-! ### The timer -/

/-- The loop body at an overdue room: the automatic move is accepted, and the room goes on
    or ends with it. -/
theorem timeoutRoom_done (now startedAt : Time) (actions : List TimeoutAction) {roomId : RoomId}
    {room : Room} {round : GameRound} (found : manager.rooms.lookup roomId = some room)
    (started : room.round = some round) :
    ∃ state, RoundOp.timeout.exec shuffler startedAt ⟨round, manager.random⟩ = .ok (true, state) ∧
      RoomManager.timeoutRoom shuffler now startedAt actions manager roomId room round =
        .ok (actions ++ [{
            playerIds := room.playerIds
            actorSeat := round.currentSeat
            phase := state.round.phase
            currentSeat := state.round.currentSeat
            settlements :=
              if state.round.phase = .settled then room.settlements state.round now else [] }],
          { (if state.round.phase = .settled then manager.removeRoom roomId room
              else manager.putRoom roomId (room.keep state.round true now)) with
            random := state.random }) := by
  obtain ⟨three, unsettled, log, ready⟩ := (holds.room _ _ found).shape.playing started
  have before : RoundInv log (Game.RoundState.mk round manager.random).round := ready
  obtain ⟨state, done⟩ : ∃ state, RoundOp.timeout.exec shuffler startedAt ⟨round, manager.random⟩ =
      .ok (true, state) := timeout_accepted before unsettled
  have players : Room.threePlayers { room with round := some state.round } = .ok room.playerIds :=
    threePlayers_ok three
  refine ⟨state, done, ?_⟩
  unfold RoomManager.timeoutRoom
  simp only [done, bind, Except.bind, if_true, players]
  split
  · have erased : RoomManager.removeRoom
        { manager.putRoom roomId { room with round := some state.round } with random := state.random }
        roomId { room with round := some state.round, lastActivity := now } =
        { manager.removeRoom roomId room with random := state.random } :=
      removeRoom_putRoom manager roomId _ state.random rfl
    rw [erased]
    rfl
  · simp [RoomManager.putRoom, Room.keep]

/-- The same as a move: the room gets its action. -/
theorem timeoutRoom_spec {now startedAt : Time} (actions : List TimeoutAction) {roomId : RoomId}
    {room : Room} {round : GameRound} (found : manager.rooms.lookup roomId = some room)
    (started : room.round = some round) :
    ∃ action event next,
      RoomManager.timeoutRoom shuffler now startedAt actions manager roomId room round =
        .ok (actions ++ [action], next) ∧
      RoomMove shuffler manager event next ∧ event.roomId = some roomId ∧
      event.batches = [action.settlements].filter (· ≠ []) ∧
      (action.settlements ≠ [] → Finished shuffler .timeout startedAt room action.settlements) ∧
      action.playerIds = room.playerIds ∧ action.actorSeat = round.currentSeat := by
  obtain ⟨state, done, timedOut⟩ := timeoutRoom_done shuffler holds now startedAt actions found started
  by_cases settled : state.round.phase = .settled
  · simp only [settled, if_true] at timedOut
    exact ⟨_, .settled roomId (room.settlements state.round now), _, timedOut,
      .settled found started done settled, rfl, batches_eq _,
      fun _ => ⟨round, _, state, now, started, done, settled, rfl⟩, rfl, rfl⟩
  · simp only [settled, if_false] at timedOut
    exact ⟨_, .moved roomId, _, timedOut,
      .moved found started done settled (by simp) (by simp) (by simp), rfl,
      batches_eq [], fun some => absurd rfl some, rfl, rfl⟩

theorem timeoutVisit_loop {now : Time} {startedAt : RoomId → Time} {visited : List RoomId}
    {actions : List TimeoutAction} {current : RoomManager ρ} {roomId : RoomId}
    (new : roomId ∉ visited) (loop : TimeoutLoop shuffler now startedAt manager visited actions current) :
    ∃ next, RoomManager.timeoutVisit shuffler now startedAt (actions, current) roomId = .ok next ∧
      TimeoutLoop shuffler now startedAt manager (visited ++ [roomId]) next.1 next.2 := by
  obtain ⟨events, comes, about⟩ := loop.moves
  -- the visits so far were to other rooms
  have same : current.rooms.lookup roomId = manager.rooms.lookup roomId :=
    moves_other comes.moves fun member => new (about roomId member)
  have sound := managerInv_moves holds comes.moves
  unfold RoomManager.timeoutVisit
  dsimp only
  rw [same]
  cases found : manager.rooms.lookup roomId with
  | none =>
    refine ⟨(actions, current), rfl, loop.skip ?_⟩
    intro room round present
    rw [found] at present
    cases present
  | some room =>
    dsimp only
    cases started : room.round with
    | none =>
      refine ⟨(actions, current), rfl, loop.skip ?_⟩
      intro other round present ticking
      rw [found] at present
      cases present
      rw [started] at ticking
      cases ticking
    | some round =>
      dsimp only
      split
      · next early =>
        refine ⟨(actions, current), rfl, loop.skip ?_⟩
        intro other otherRound present _
        rw [found] at present
        cases present
        exact not_le.mpr early
      · next late =>
        obtain ⟨action, event, next, done, move, is, batches, ending, players, actor⟩ :=
          timeoutRoom_spec shuffler sound actions (same.trans found) started
        exact ⟨_, done, loop.act new found started move is batches ending players actor⟩

theorem timeoutExpired_loop (order : VisitOrder RoomId) (now : Time) (startedAt : RoomId → Time) :
    ∃ actions next, manager.timeoutExpired shuffler order now startedAt = .ok (actions, next) ∧
      TimeoutLoop shuffler now startedAt manager (order.visit manager.rooms.keys) actions next := by
  have initial : TimeoutLoop shuffler now startedAt manager [] [] manager :=
    ⟨⟨[], .nothing manager, by simp⟩, by simp, by simp⟩
  obtain ⟨⟨actions, next⟩, ran, loop⟩ := ExceptLoop.foldlM_spec
    (fun visited state => TimeoutLoop shuffler now startedAt manager visited state.1 state.2)
    (order.visit manager.rooms.keys) ([], manager) initial
    fun visited roomId rest state split loop =>
      timeoutVisit_loop shuffler holds (ExceptLoop.notMem_visited (order.nodup _) split) loop
  exact ⟨actions, next, ran, loop⟩

omit holds in
theorem closeIdle_loop {now : Time} {visited : List RoomId} {current : RoomManager ρ} {roomId : RoomId}
    (new : roomId ∉ visited) (loop : IdleLoop shuffler manager visited current) :
    IdleLoop shuffler manager (visited ++ [roomId]) (RoomManager.closeIdle now current roomId) := by
  obtain ⟨events, comes, about⟩ := loop
  have skipped : IdleLoop shuffler manager (visited ++ [roomId]) current :=
    ⟨events, comes, fun other member => List.mem_append_left _ (about other member)⟩
  unfold RoomManager.closeIdle
  split
  · exact skipped
  · next room found =>
    split
    · exact skipped
    · next idle =>
      have noRound : room.round = none := by
        simpa using (not_or.mp idle).1
      have move : RoomMove shuffler current (.closed roomId []) _ := .idle found noRound
      refine ⟨events ++ [.closed roomId []], ?_, ?_⟩
      · refine comes.snoc move ?_
        rintro other ⟨⟩ member
        exact new (about roomId member)
      · intro other member
        rw [List.filterMap_append] at member
        obtain before | same := List.mem_append.mp member
        · exact List.mem_append_left _ (about other before)
        · exact List.mem_append_right _ same

omit holds in
theorem cleanupIdle_comes (order : VisitOrder RoomId) (now : Time) :
    ∃ events, Comes shuffler manager events [] (manager.cleanupIdle order now) := by
  have loop : IdleLoop shuffler manager (order.visit manager.rooms.keys)
      (manager.cleanupIdle order now) :=
    ExceptLoop.foldl_spec (IdleLoop shuffler manager) _ manager ⟨[], .nothing manager, by simp⟩
      fun visited roomId rest current split loop =>
        closeIdle_loop shuffler (ExceptLoop.notMem_visited (order.nodup _) split) loop
  obtain ⟨events, comes, _⟩ := loop
  exact ⟨events, comes⟩

theorem closeExpired_loop {now : Time} {rooms : List (List SettlementEntry)} {current : RoomManager ρ}
    {player : PlayerId} (expired : manager.expired now player)
    (loop : ExpiredLoop shuffler now manager rooms current) :
    ExpiredLoop shuffler now manager (RoomManager.closeExpired now rooms current player).1
      (RoomManager.closeExpired now rooms current player).2 := by
  obtain ⟨⟨events, comes, gone⟩, still, ends⟩ := loop
  have sound := managerInv_moves holds comes.moves
  unfold RoomManager.closeExpired
  cases indexed : current.playerRooms.lookup player with
  | none =>
    -- the player's room has closed already, and with it went the note that they are offline
    simp only [UnorderedMap.erase_absent (sound.offline_absent indexed)]
    exact ⟨⟨events, comes, gone⟩, still, ends⟩
  | some roomId =>
    obtain ⟨room, found, member⟩ := sound.found indexed
    simp only [found]
    unfold RoomManager.expired at expired
    cases away : manager.offlineSince.lookup player with
    | none => simp [away] at expired
    | some since =>
      rw [away] at expired
      have long : now - since ≥ seconds 300 := by simpa using expired
      have move : RoomMove shuffler current (.closed roomId (room.expiredSettlements player now)) _ :=
        .expired found member ((still player roomId indexed).trans away) long
      -- a room that is still there has not been closed, so it is as it was
      have present : manager.rooms.lookup roomId = some room := by
        rw [← found]
        refine (moves_other comes.moves fun before => ?_).symm
        rw [gone roomId before] at found
        cases found
      refine ⟨⟨events ++ [.closed roomId (room.expiredSettlements player now)], ?_, ?_⟩, ?_, ?_⟩
      · have later := comes.snoc move (by
          rintro other ⟨⟩ before
          rw [gone roomId before] at found
          cases found)
        -- an empty batch is not given out
        have same : (if room.expiredSettlements player now ≠ [] then
            rooms ++ [room.expiredSettlements player now] else rooms) =
            rooms ++ RoomEvent.batches (.closed roomId (room.expiredSettlements player now)) := by
          by_cases empty : room.expiredSettlements player now = [] <;> simp [RoomEvent.batches, empty]
        rw [same]
        exact later
      · intro other before
        rw [find_removeRoom]
        split
        · rfl
        · next differ =>
          rw [List.filterMap_append] at before
          obtain earlier | same := List.mem_append.mp before
          · rw [stopWaiting_eq]
            exact gone other earlier
          · exact absurd (List.mem_singleton.mp same) differ
      · intro other otherRoom present
        rw [find_removeRoom_player] at present
        rw [find_removeRoom_offline]
        split at present
        · cases present
        · next elsewhere =>
          rw [if_neg elsewhere]
          rw [stopWaiting_eq] at present ⊢
          exact still other otherRoom present
      · intro batch given
        split at given
        · obtain before | same := List.mem_append.mp given
          · exact ends batch before
          · exact ⟨roomId, room, player, present, since, member, away, long, List.mem_singleton.mp same⟩
        · exact ends batch given

theorem cleanupExpired_comes (order : VisitOrder PlayerId) (now : Time) :
    ∃ events, Comes shuffler manager events (manager.cleanupExpired order now).1
        (manager.cleanupExpired order now).2 ∧
      ∀ batch ∈ (manager.cleanupExpired order now).1, ∃ roomId room player,
        manager.rooms.lookup roomId = some room ∧ Abandoned manager now room player batch := by
  have loop : ExpiredLoop shuffler now manager (manager.cleanupExpired order now).1
      (manager.cleanupExpired order now).2 := by
    refine ExceptLoop.foldl_spec
      (fun _ state => ExpiredLoop shuffler now manager state.1 state.2) _ ([], manager)
      ⟨⟨[], .nothing manager, by simp⟩, fun _ _ _ => rfl, by simp⟩ ?_
    intro visited player rest state split loop
    have member : player ∈ (order.visit manager.offlineSince.keys).filter (manager.expired now) := by
      rw [split]
      simp
    exact closeExpired_loop shuffler holds (List.mem_filter.mp member).2 loop
  obtain ⟨events, comes, _⟩ := loop.moves
  exact ⟨events, comes, loop.ends⟩

end Operations

/-- The specification of the operations: each returns, what it did to the rooms are moves,
    and what it gives out are settlements of rooms that end. -/
theorem exec_comes (shuffler : Shuffler ρ) {manager : RoomManager ρ} (holds : ManagerInv manager)
    (op : RoomOp) :
    ∃ answer next events, op.exec shuffler manager = .ok (answer, next) ∧
      Comes shuffler manager events answer.batches next ∧
      ∀ batch ∈ answer.batches, ∃ roomId room, manager.rooms.lookup roomId = some room ∧
        Ending shuffler manager room batch op := by
  cases op with
  | matchPlayer order now player =>
    obtain ⟨result, next, events, done, comes⟩ := matchPlayer_comes shuffler holds order now player
    exact ⟨_, next, events, ExceptLoop.bind_ok.mpr ⟨_, done, rfl⟩, comes, by simp [RoomAnswer.batches]⟩
  | callLandlord startedAt now player call =>
    obtain ⟨result, next, events, done, comes⟩ :=
      callLandlord_comes shuffler holds startedAt now player call
    exact ⟨_, next, events, ExceptLoop.bind_ok.mpr ⟨_, done, rfl⟩, comes, by simp [RoomAnswer.batches]⟩
  | playCards now endedAt player cards =>
    obtain ⟨result, next, events, done, comes, ends⟩ :=
      playCards_comes shuffler holds now endedAt player cards
    exact ⟨_, next, events, ExceptLoop.bind_ok.mpr ⟨_, done, rfl⟩, comes, ends⟩
  | pass now player =>
    obtain ⟨result, next, events, done, comes⟩ := pass_comes shuffler holds now player
    exact ⟨_, next, events, ExceptLoop.bind_ok.mpr ⟨_, done, rfl⟩, comes, by simp [RoomAnswer.batches]⟩
  | reconnectInfo player =>
    obtain ⟨info, done⟩ := reconnectInfo_ok holds player
    exact ⟨_, manager, [], ExceptLoop.bind_ok.mpr ⟨_, done, rfl⟩, .nothing manager,
      by simp [RoomAnswer.batches]⟩
  | roomState now player =>
    obtain ⟨state, done⟩ := roomState_ok holds now player
    exact ⟨_, manager, [], ExceptLoop.bind_ok.mpr ⟨_, done, rfl⟩, .nothing manager,
      by simp [RoomAnswer.batches]⟩
  | markOnline player => exact ⟨_, _, _, rfl, .single .online, by simp [RoomAnswer.batches]⟩
  | markOffline player now => exact ⟨_, _, _, rfl, .single .offline, by simp [RoomAnswer.batches]⟩
  | timeoutExpired order now startedAt =>
    obtain ⟨actions, next, done, loop⟩ := timeoutExpired_loop shuffler holds order now startedAt
    obtain ⟨events, comes, _⟩ := loop.moves
    refine ⟨_, next, events, ExceptLoop.bind_ok.mpr ⟨_, done, rfl⟩, comes, ?_⟩
    intro batch member
    obtain ⟨some, nonempty⟩ := List.mem_filter.mp member
    obtain ⟨action, present, rfl⟩ := List.mem_map.mp some
    obtain ⟨roomId, room, found, finished⟩ := loop.ends action present (by simpa using nonempty)
    refine ⟨roomId, room, found, ?_⟩
    rw [Ending, (holds.room roomId room found).id]
    exact finished
  | cleanupIdle order now =>
    obtain ⟨events, comes⟩ : ∃ events, Comes shuffler manager events [] (manager.cleanupIdle order now) :=
      cleanupIdle_comes shuffler order now
    exact ⟨_, _, events, rfl, comes, by simp [RoomAnswer.batches]⟩
  | cleanupExpired order now =>
    obtain ⟨events, comes, ends⟩ := cleanupExpired_comes shuffler holds order now
    refine ⟨_, _, events, rfl, comes, ?_⟩
    intro batch member
    obtain ⟨roomId, room, player, found, abandoned⟩ := ends batch member
    exact ⟨roomId, room, found, player, abandoned⟩

end Doudizhu.Gateway
