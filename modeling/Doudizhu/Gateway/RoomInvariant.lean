import Doudizhu.Gateway.RoomManager
import Doudizhu.Game.RoundInvariant

/-! # The representation invariant of the room manager

The maps of `RoomManager` say the same thing twice: which player is in which room.
`ManagerInv` is what ties them together.  Three changes carry it through all operations:
a player joins a room (`join`), a room's round moves (`putRound`), a room and its players
are erased (`dropRoom`).
-/

namespace Doudizhu.Gateway

open Game

variable {ρ : Type} {shuffler : Shuffler ρ}

/-! ## The invariant -/

/-- A waiting room has one or two players and no round; a playing room three players and
    a round that has not settled. -/
def Room.Shape (room : Room) : Prop :=
  match room.round with
  | none => room.playerIds.length = 1 ∨ room.playerIds.length = 2
  | some round => room.playerIds.length = 3 ∧ round.phase ≠ .settled ∧ ∃ log, RoundInv log round

structure RoomInv (roomId : RoomId) (room : Room) : Prop where
  id : room.id = roomId
  nodup : room.playerIds.Nodup
  shape : room.Shape

structure ManagerInv (manager : RoomManager ρ) : Prop where
  index : ∀ player roomId, manager.playerRooms.lookup player = some roomId ↔
    ∃ room, manager.rooms.lookup roomId = some room ∧ player ∈ room.playerIds
  room : ∀ roomId room, manager.rooms.lookup roomId = some room → RoomInv roomId room
  fresh : ∀ roomId room, manager.rooms.lookup roomId = some room → roomId < manager.nextRoomId
  waiting : ∀ roomId, manager.waitingRoomId = some roomId ↔
    ∃ room, manager.rooms.lookup roomId = some room ∧ room.round = none
  offline : ∀ player since, manager.offlineSince.lookup player = some since →
    ∃ roomId, manager.playerRooms.lookup player = some roomId

theorem managerInv_empty (random : ρ) : ManagerInv ({ random } : RoomManager ρ) where
  index := by simp
  room := by simp
  fresh := by simp
  waiting := by simp
  offline := by simp

/-! ## Reading it -/

section Reading

variable {manager : RoomManager ρ} {roomId : RoomId} {room : Room} {round : GameRound}
  {player : PlayerId}

theorem Room.Shape.playing (shape : room.Shape) (started : room.round = some round) :
    room.playerIds.length = 3 ∧ round.phase ≠ .settled ∧ ∃ log, RoundInv log round := by
  simpa only [Room.Shape, started] using shape

theorem Room.Shape.length_le (shape : room.Shape) : room.playerIds.length ≤ 3 := by
  unfold Room.Shape at shape
  cases started : room.round with
  | none =>
    rw [started] at shape
    obtain one | two := shape <;> omega
  | some round =>
    rw [started] at shape
    exact shape.1.le

/-- Every seat found by a search is one of the three. -/
theorem RoomInv.seat_lt (holds : RoomInv roomId room) (member : player ∈ room.playerIds) :
    room.seatOf player < 3 :=
  (List.idxOf_lt_length_of_mem member).trans_le holds.shape.length_le

theorem threePlayers_ok (three : room.playerIds.length = 3) :
    room.threePlayers = .ok room.playerIds := by
  unfold Room.threePlayers
  match players : room.playerIds with
  | [first, second, third] => rfl
  | [] | [_] | [_, _] | _ :: _ :: _ :: _ :: _ => simp [players] at three

theorem ManagerInv.found (holds : ManagerInv manager)
    (indexed : manager.playerRooms.lookup player = some roomId) :
    ∃ room, manager.rooms.lookup roomId = some room ∧ player ∈ room.playerIds :=
  (holds.index player roomId).mp indexed

/-- A player is in one room at most. -/
theorem ManagerInv.unique (holds : ManagerInv manager) {other : RoomId} {otherRoom : Room}
    (found : manager.rooms.lookup roomId = some room) (member : player ∈ room.playerIds)
    (otherFound : manager.rooms.lookup other = some otherRoom)
    (otherMember : player ∈ otherRoom.playerIds) : roomId = other := by
  have first := (holds.index player roomId).mpr ⟨room, found, member⟩
  have second := (holds.index player other).mpr ⟨otherRoom, otherFound, otherMember⟩
  exact Option.some.inj (first.symm.trans second)

/-- Who is in no room has no note of being offline. -/
theorem ManagerInv.offline_absent (holds : ManagerInv manager)
    {player : PlayerId} (absent : manager.playerRooms.lookup player = none) :
    manager.offlineSince.lookup player = none := by
  cases away : manager.offlineSince.lookup player with
  | none => rfl
  | some since =>
    obtain ⟨roomId, present⟩ := holds.offline player since away
    rw [absent] at present
    cases present

/-- No room waits once its round has started. -/
theorem ManagerInv.not_waiting (holds : ManagerInv manager)
    (found : manager.rooms.lookup roomId = some room) (started : room.round.isSome) :
    manager.waitingRoomId ≠ some roomId := by
  intro waiting
  obtain ⟨other, sameId, idle⟩ := (holds.waiting roomId).mp waiting
  rw [found] at sameId
  cases sameId
  rw [idle] at started
  cases started

end Reading

/-! ## The changes -/

theorem ManagerInv.withRandom {manager : RoomManager ρ} (holds : ManagerInv manager) (random : ρ) :
    ManagerInv { manager with random } :=
  ⟨holds.index, holds.room, holds.fresh, holds.waiting, holds.offline⟩

/-- The round of a room moves, and the room keeps its players. -/
theorem ManagerInv.putRound {manager : RoomManager ρ} {roomId : RoomId} {room next : Room}
    (holds : ManagerInv manager) (found : manager.rooms.lookup roomId = some room)
    (started : room.round.isSome) (sound : RoomInv roomId next) (still : next.round.isSome)
    (players : next.playerIds = room.playerIds) : ManagerInv (manager.putRoom roomId next) where
  index player other := by
    rw [RoomManager.putRoom, holds.index]
    simp only [UnorderedMap.find_insert]
    by_cases same : other = roomId
    · subst same
      simp [found, players]
    · simp [same]
  room other := by
    intro otherRoom otherFound
    simp only [RoomManager.putRoom, UnorderedMap.find_insert] at otherFound
    split at otherFound
    · next same =>
      cases otherFound
      exact same ▸ sound
    · exact holds.room other otherRoom otherFound
  fresh other := by
    intro otherRoom otherFound
    simp only [RoomManager.putRoom, UnorderedMap.find_insert] at otherFound
    split at otherFound
    · next same => exact same ▸ holds.fresh roomId room found
    · exact holds.fresh other otherRoom otherFound
  waiting other := by
    simp only [RoomManager.putRoom, UnorderedMap.find_insert, holds.waiting]
    by_cases same : other = roomId
    · subst same
      have idle : room.round ≠ none := Option.isSome_iff_ne_none.mp started
      have stillIdle : next.round ≠ none := Option.isSome_iff_ne_none.mp still
      simp [found, idle, stillIdle]
    · simp [same]
  offline := holds.offline

/-! ### Joining a room -/

/-- `roomId` is where the next player goes: `room` waits there, or is about to. -/
structure Waiting (manager : RoomManager ρ) (roomId : RoomId) (room : Room) : Prop where
  id : room.id = roomId
  idle : room.round = none
  nodup : room.playerIds.Nodup
  few : room.playerIds.length ≤ 2
  players : ∀ player, player ∈ room.playerIds ↔ manager.playerRooms.lookup player = some roomId
  others : ∀ other otherRoom, other ≠ roomId → manager.rooms.lookup other = some otherRoom →
    otherRoom.round ≠ none

/-- `base` is `manager` with a room to wait in. -/
structure Opened (manager base : RoomManager ρ) (roomId : RoomId) (room : Room) : Prop where
  waiting : base.waitingRoomId = some roomId
  rooms : base.rooms = manager.rooms.insert roomId room
  index : base.playerRooms = manager.playerRooms
  offline : base.offlineSince = manager.offlineSince
  random : base.random = manager.random
  fresh : roomId < base.nextRoomId
  grows : manager.nextRoomId ≤ base.nextRoomId
  place : manager.rooms.lookup roomId = some room ∨
    (manager.rooms.lookup roomId = none ∧ manager.nextRoomId ≤ roomId)
  waits : Waiting manager roomId room

theorem openWaitingRoom_spec {manager : RoomManager ρ} (holds : ManagerInv manager) (now : Time) :
    ∃ roomId room, Opened manager (manager.openWaitingRoom now) roomId room := by
  unfold RoomManager.openWaitingRoom
  cases waiting : manager.waitingRoomId with
  -- the room that waits is the only one without a round
  | some roomId =>
    obtain ⟨room, found, idle⟩ := (holds.waiting roomId).mp waiting
    have sound := holds.room roomId room found
    refine ⟨roomId, room, waiting, (UnorderedMap.insert_self found).symm, rfl, rfl, rfl,
      holds.fresh roomId room found, le_refl _, .inl found, sound.id, idle, sound.nodup, ?_, ?_, ?_⟩
    · have shape := sound.shape
      rw [Room.Shape, idle] at shape
      obtain one | two := shape <;> omega
    · intro player
      constructor
      · intro member
        exact (holds.index player roomId).mpr ⟨room, found, member⟩
      · intro indexed
        obtain ⟨other, sameId, member⟩ := holds.found indexed
        rw [found] at sameId
        cases sameId
        exact member
    · intro other otherRoom differ otherFound otherIdle
      have second := (holds.waiting other).mpr ⟨otherRoom, otherFound, otherIdle⟩
      exact differ (Option.some.inj (second.symm.trans waiting))
  -- no room waits, so every room has a round, and the new id is unused
  | none =>
    have unused : manager.rooms.lookup manager.nextRoomId = none := by
      cases found : manager.rooms.lookup manager.nextRoomId with
      | none => rfl
      | some room => exact absurd (holds.fresh _ _ found) (lt_irrefl _)
    refine ⟨manager.nextRoomId, { id := manager.nextRoomId, lastActivity := now }, rfl,
      UnorderedMap.emplace_new _ unused, rfl, rfl, rfl, Nat.lt_succ_self _, Nat.le_succ _,
      .inr ⟨unused, le_refl _⟩, rfl, rfl, List.nodup_nil, Nat.zero_le 2, ?_, ?_⟩
    · intro player
      constructor
      · intro member
        cases member
      · intro indexed
        obtain ⟨room, found, _⟩ := holds.found indexed
        rw [unused] at found
        cases found
    · intro other otherRoom _ otherFound otherIdle
      have second := (holds.waiting other).mpr ⟨otherRoom, otherFound, otherIdle⟩
      rw [waiting] at second
      cases second

/-- A player in no room joins the one that waits, and with the third the round starts. -/
theorem ManagerInv.join {manager next : RoomManager ρ} {roomId : RoomId} {room joined : Room}
    {player : PlayerId} (holds : ManagerInv manager) (waits : Waiting manager roomId room)
    (absent : manager.playerRooms.lookup player = none)
    (players : joined.playerIds = room.playerIds ++ [player]) (sound : RoomInv roomId joined)
    (rooms : next.rooms = manager.rooms.insert roomId joined)
    (index : next.playerRooms = manager.playerRooms.insert player roomId)
    (offline : next.offlineSince = manager.offlineSince)
    (fresh : roomId < next.nextRoomId) (grows : manager.nextRoomId ≤ next.nextRoomId)
    (waiting : next.waitingRoomId = if joined.round = none then some roomId else none) :
    ManagerInv next where
  index other otherId := by
    rw [rooms, index, UnorderedMap.find_insert, UnorderedMap.find_insert]
    -- the new pair, and the old ones
    by_cases sameRoom : otherId = roomId
    · subst sameRoom
      rw [if_pos rfl]
      by_cases same : other = player
      · subst same
        simp [players]
      · rw [if_neg same, ← waits.players]
        simp [players, same]
    · rw [if_neg sameRoom]
      by_cases same : other = player
      · subst same
        rw [if_pos rfl]
        constructor
        · intro equal
          exact absurd (Option.some.inj equal).symm sameRoom
        · intro elsewhere
          rw [(holds.index other otherId).mpr elsewhere] at absent
          cases absent
      · rw [if_neg same]
        exact holds.index other otherId
  room other otherRoom otherFound := by
    rw [rooms, UnorderedMap.find_insert] at otherFound
    split at otherFound
    · next same =>
      cases otherFound
      exact same ▸ sound
    · exact holds.room other otherRoom otherFound
  fresh other otherRoom otherFound := by
    rw [rooms, UnorderedMap.find_insert] at otherFound
    split at otherFound
    · next same => exact same ▸ fresh
    · exact (holds.fresh other otherRoom otherFound).trans_le grows
  waiting other := by
    rw [rooms, waiting, UnorderedMap.find_insert]
    -- the room still waits unless the third player has come
    by_cases same : other = roomId
    · subst same
      rw [if_pos rfl]
      by_cases idle : joined.round = none
      · simp [idle]
      · simp [idle]
    · rw [if_neg same]
      constructor
      · intro equal
        split at equal
        · exact absurd (Option.some.inj equal).symm same
        · cases equal
      · rintro ⟨otherRoom, otherFound, otherIdle⟩
        exact absurd otherIdle (waits.others other otherRoom same otherFound)
  offline other since away := by
    rw [offline] at away
    obtain ⟨otherId, indexed⟩ := holds.offline other since away
    rw [index, UnorderedMap.find_insert]
    split
    · exact ⟨roomId, rfl⟩
    · exact ⟨otherId, indexed⟩

/-! ### Erasing a room -/

section Erasing

variable (manager : RoomManager ρ) (roomId : RoomId) (room : Room)

theorem find_removeRoom (other : RoomId) :
    (manager.removeRoom roomId room).rooms.lookup other =
      if other = roomId then none else manager.rooms.lookup other :=
  UnorderedMap.find_erase ..

theorem find_removeRoom_player (player : PlayerId) :
    (manager.removeRoom roomId room).playerRooms.lookup player =
      if player ∈ room.playerIds then none else manager.playerRooms.lookup player :=
  UnorderedMap.find_eraseAll ..

theorem find_removeRoom_offline (player : PlayerId) :
    (manager.removeRoom roomId room).offlineSince.lookup player =
      if player ∈ room.playerIds then none else manager.offlineSince.lookup player :=
  UnorderedMap.find_eraseAll ..

theorem stopWaiting_eq :
    manager.stopWaiting room =
      { manager with waitingRoomId :=
          if manager.waitingRoomId = some room.id then none else manager.waitingRoomId } := by
  unfold RoomManager.stopWaiting
  split <;> rfl

end Erasing

/-- A room goes, with its players and, if it waits, the note that it does. -/
theorem ManagerInv.dropRoom {manager : RoomManager ρ} {roomId : RoomId} {room : Room}
    (holds : ManagerInv manager) (found : manager.rooms.lookup roomId = some room) :
    ManagerInv ((manager.stopWaiting room).removeRoom roomId room) := by
  have own : room.id = roomId := (holds.room roomId room found).id
  rw [stopWaiting_eq, own]
  -- a player of the room is in no other room
  have outside : ∀ player other otherRoom, other ≠ roomId →
      manager.rooms.lookup other = some otherRoom → player ∈ otherRoom.playerIds →
      player ∉ room.playerIds := fun player other otherRoom differ otherFound otherMember member =>
    differ (holds.unique otherFound otherMember found member)
  constructor
  case index =>
    intro player other
    rw [find_removeRoom_player, find_removeRoom]
    constructor
    · intro indexed
      split at indexed
      · cases indexed
      · next left =>
        obtain ⟨otherRoom, otherFound, otherMember⟩ := holds.found indexed
        have differ : other ≠ roomId := by
          rintro rfl
          rw [found] at otherFound
          cases otherFound
          exact left otherMember
        exact ⟨otherRoom, by rw [if_neg differ]; exact otherFound, otherMember⟩
    · rintro ⟨otherRoom, otherFound, otherMember⟩
      split at otherFound
      · cases otherFound
      · next differ =>
        rw [if_neg (outside player other otherRoom differ otherFound otherMember)]
        exact (holds.index player other).mpr ⟨otherRoom, otherFound, otherMember⟩
  case room =>
    intro other otherRoom otherFound
    rw [find_removeRoom] at otherFound
    split at otherFound
    · cases otherFound
    · exact holds.room other otherRoom otherFound
  case fresh =>
    intro other otherRoom otherFound
    rw [find_removeRoom] at otherFound
    split at otherFound
    · cases otherFound
    · exact holds.fresh other otherRoom otherFound
  case waiting =>
    intro other
    rw [find_removeRoom]
    simp only [RoomManager.removeRoom]
    by_cases same : other = roomId
    · subst same
      rw [if_pos rfl]
      constructor
      · intro waiting
        split at waiting
        · cases waiting
        · next differ => exact absurd waiting differ
      · rintro ⟨otherRoom, otherFound, _⟩
        cases otherFound
    · rw [if_neg same, ← holds.waiting]
      split
      · next waiting =>
        rw [waiting]
        exact ⟨fun none => (Option.some_ne_none _ none.symm).elim,
          fun equal => absurd (Option.some.inj equal).symm same⟩
      · exact Iff.rfl
  case offline =>
    intro player since away
    rw [find_removeRoom_offline] at away
    rw [find_removeRoom_player]
    split at away
    · cases away
    · next left =>
      obtain ⟨other, indexed⟩ := holds.offline player since away
      exact ⟨other, by rw [if_neg left]; exact indexed⟩

/-- A room with a round does not wait, so nothing needs to be noted. -/
theorem ManagerInv.dropPlaying {manager : RoomManager ρ} {roomId : RoomId} {room : Room}
    (holds : ManagerInv manager) (found : manager.rooms.lookup roomId = some room)
    (started : room.round.isSome) : ManagerInv (manager.removeRoom roomId room) := by
  have same : manager.stopWaiting room = manager := by
    unfold RoomManager.stopWaiting
    rw [(holds.room roomId room found).id]
    exact if_neg (holds.not_waiting found started)
  have dropped := holds.dropRoom found
  rwa [same] at dropped

/-! ### Going online and offline -/

theorem ManagerInv.markOnline {manager : RoomManager ρ} (holds : ManagerInv manager)
    (player : PlayerId) : ManagerInv (manager.markOnline player) where
  index := holds.index
  room := holds.room
  fresh := holds.fresh
  waiting := holds.waiting
  offline other since away := by
    rw [RoomManager.markOnline, UnorderedMap.find_erase] at away
    split at away
    · cases away
    · exact holds.offline other since away

theorem ManagerInv.markOffline {manager : RoomManager ρ} (holds : ManagerInv manager)
    (player : PlayerId) (now : Time) : ManagerInv (manager.markOffline player now) := by
  unfold RoomManager.markOffline
  split
  · next seated =>
    refine ⟨holds.index, holds.room, holds.fresh, holds.waiting, ?_⟩
    intro other since away
    rw [UnorderedMap.find_emplace] at away
    split at away
    · next same => exact same ▸ Finmap.mem_iff.mp seated
    · exact holds.offline other since away
  · exact holds

end Doudizhu.Gateway
