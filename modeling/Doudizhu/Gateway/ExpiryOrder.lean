import Mathlib.Data.String.Basic
import Doudizhu.Gateway.Settlement

/-! # The order of expiry

`cleanup_expired` goes through the expired players in the order of a hash map.  Which rooms
close, and what is left, does not depend on that order.  Who wins a game does, when players
of both sides have been away too long: the first one visited loses, and takes the room away.
-/

namespace Doudizhu.Gateway

open Game

variable {ρ : Type} {shuffler : Shuffler ρ}

/-! ## Closing a room -/

def RoomManager.closeRoom (manager : RoomManager ρ) (roomId : RoomId) (room : Room) : RoomManager ρ :=
  (manager.stopWaiting room).removeRoom roomId room

/-- The batch of a room that closes because of the player, if its round has a landlord. -/
def Room.expiredBatches (room : Room) (player : PlayerId) (now : Time) : List (List SettlementEntry) :=
  if room.expiredSettlements player now ≠ [] then [room.expiredSettlements player now] else []

section Closing

variable {manager : RoomManager ρ} {roomId other : RoomId} {room otherRoom : Room} {player : PlayerId}

@[simp] theorem find_closeRoom :
    (manager.closeRoom roomId room).rooms.lookup other =
      if other = roomId then none else manager.rooms.lookup other := by
  rw [RoomManager.closeRoom, find_removeRoom, stopWaiting_eq]

@[simp] theorem find_closeRoom_player :
    (manager.closeRoom roomId room).playerRooms.lookup player =
      if player ∈ room.playerIds then none else manager.playerRooms.lookup player := by
  rw [RoomManager.closeRoom, find_removeRoom_player, stopWaiting_eq]

@[simp] theorem find_closeRoom_offline :
    (manager.closeRoom roomId room).offlineSince.lookup player =
      if player ∈ room.playerIds then none else manager.offlineSince.lookup player := by
  rw [RoomManager.closeRoom, find_removeRoom_offline, stopWaiting_eq]

theorem ManagerInv.closeRoom (holds : ManagerInv manager)
    (found : manager.rooms.lookup roomId = some room) : ManagerInv (manager.closeRoom roomId room) :=
  holds.dropRoom found

/-- Two rooms close in either order. -/
theorem closeRoom_comm :
    (manager.closeRoom roomId room).closeRoom other otherRoom =
      (manager.closeRoom other otherRoom).closeRoom roomId room := by
  have waiting : ((manager.closeRoom roomId room).closeRoom other otherRoom).waitingRoomId =
      ((manager.closeRoom other otherRoom).closeRoom roomId room).waitingRoomId := by
    simp only [RoomManager.closeRoom, stopWaiting_eq, RoomManager.removeRoom]
    -- a room that waits is forgotten by either
    cases manager.waitingRoomId with
    | none => simp
    | some waits =>
      by_cases one : waits = room.id <;> by_cases two : waits = otherRoom.id <;> simp [one, two]
  simp only [RoomManager.closeRoom, stopWaiting_eq, RoomManager.removeRoom] at waiting ⊢
  rw [waiting, Finmap.erase_erase, UnorderedMap.eraseAll_comm manager.playerRooms,
    UnorderedMap.eraseAll_comm manager.offlineSince]

end Closing

/-! ## One player -/

section Visit

variable {manager : RoomManager ρ} (holds : ManagerInv manager) {player : PlayerId}
  {rooms : List (List SettlementEntry)} {now : Time}

include holds

/-- The player's room is gone, and with it the note that the player is offline. -/
theorem closeExpired_absent (absent : manager.playerRooms.lookup player = none) :
    manager.closeExpired now rooms player = (rooms, manager) := by
  simp only [RoomManager.closeExpired, absent, UnorderedMap.erase_absent (holds.offline_absent absent)]

theorem closeExpired_present {roomId : RoomId} {room : Room}
    (found : manager.rooms.lookup roomId = some room) (member : player ∈ room.playerIds) :
    manager.closeExpired now rooms player =
      (rooms ++ room.expiredBatches player now, manager.closeRoom roomId room) := by
  have indexed := (holds.index player roomId).mpr ⟨room, found, member⟩
  simp only [RoomManager.closeExpired, indexed, found, Room.expiredBatches, RoomManager.closeRoom]
  split <;> simp

end Visit

/-! ## Sides -/

/-- The landlord of the round, once there is one. -/
def Room.landlord (room : Room) : Option Nat := room.round.bind GameRound.landlordSeat

/-- The players who are gone are all on one side. -/
def Room.OneSided (room : Room) (gone : PlayerId → Bool) : Prop :=
  ∀ landlord ∈ room.landlord, ∀ player ∈ room.playerIds, ∀ other ∈ room.playerIds,
    gone player → gone other → (room.seatOf player = landlord ↔ room.seatOf other = landlord)

def RoomManager.OneSided (manager : RoomManager ρ) (gone : PlayerId → Bool) : Prop :=
  ∀ roomId room, manager.rooms.lookup roomId = some room → room.OneSided gone

theorem expiredSettlements_none {room : Room} (unowned : room.landlord = none) (player : PlayerId)
    (now : Time) : room.expiredSettlements player now = [] := by
  unfold Room.expiredSettlements
  cases started : room.round with
  | none => rfl
  | some round =>
    have none : round.landlordSeat = none := by simpa [Room.landlord, started] using unowned
    simp [none]

/-- Who is gone decides only by the side. -/
theorem expiredSettlements_some {room : Room} {landlord : Nat} (owned : room.landlord = some landlord)
    (now : Time) : ∃ duration, ∀ player, room.expiredSettlements player now =
      room.settlementEntries landlord (room.seatOf player != landlord) duration := by
  obtain ⟨round, started, seat⟩ := Option.bind_eq_some_iff.mp owned
  refine ⟨round.durationSeconds now, fun player => ?_⟩
  simp [Room.expiredSettlements, started, seat]

theorem OneSided.same_entries {room : Room} {gone : PlayerId → Bool} (oneSided : room.OneSided gone)
    {player other : PlayerId} (member : player ∈ room.playerIds) (inside : other ∈ room.playerIds)
    (left : gone player) (away : gone other) (now : Time) :
    room.expiredSettlements player now = room.expiredSettlements other now := by
  cases owned : room.landlord with
  | none => rw [expiredSettlements_none owned, expiredSettlements_none owned]
  | some landlord =>
    obtain ⟨duration, entries⟩ := expiredSettlements_some owned now
    have sides := oneSided landlord owned player member other inside left away
    have same : (room.seatOf player != landlord) = (room.seatOf other != landlord) := by
      rw [Bool.eq_iff_iff]
      simp [sides]
    rw [entries, entries, same]

/-! ## All players -/

/-- The loop body of `cleanup_expired`. -/
def visitExpired (now : Time) (state : List (List SettlementEntry) × RoomManager ρ)
    (player : PlayerId) : List (List SettlementEntry) × RoomManager ρ :=
  state.2.closeExpired now state.1 player

theorem visitExpired_cases {state : List (List SettlementEntry) × RoomManager ρ}
    (holds : ManagerInv state.2) (now : Time) (player : PlayerId) :
    (state.2.playerRooms.lookup player = none ∧ visitExpired now state player = state) ∨
      ∃ roomId room, state.2.rooms.lookup roomId = some room ∧ player ∈ room.playerIds ∧
        visitExpired now state player =
          (state.1 ++ room.expiredBatches player now, state.2.closeRoom roomId room) := by
  cases indexed : state.2.playerRooms.lookup player with
  | none => exact .inl ⟨rfl, closeExpired_absent holds indexed⟩
  | some roomId =>
    obtain ⟨room, found, member⟩ := holds.found indexed
    exact .inr ⟨roomId, room, found, member, closeExpired_present holds found member⟩

theorem visitExpired_sound {state : List (List SettlementEntry) × RoomManager ρ}
    (holds : ManagerInv state.2) (now : Time) (player : PlayerId) :
    ManagerInv (visitExpired now state player).2 := by
  obtain ⟨_, same⟩ | ⟨roomId, room, found, _, next⟩ := visitExpired_cases holds now player
  · rw [same]
    exact holds
  · rw [next]
    exact holds.closeRoom found

/-- Visits only take rooms away. -/
theorem visitExpired_oneSided {state : List (List SettlementEntry) × RoomManager ρ}
    (holds : ManagerInv state.2) {gone : PlayerId → Bool} (oneSided : state.2.OneSided gone)
    (now : Time) (player : PlayerId) : (visitExpired now state player).2.OneSided gone := by
  obtain ⟨_, same⟩ | ⟨roomId, room, _, _, next⟩ := visitExpired_cases holds now player
  · rw [same]
    exact oneSided
  · rw [next]
    intro other otherRoom found
    rw [find_closeRoom] at found
    split at found
    · cases found
    · exact oneSided other otherRoom found

/-- The same state, and the same batches in some order. -/
def SameExpiry (left right : List (List SettlementEntry) × RoomManager ρ) : Prop :=
  left.1.Perm right.1 ∧ left.2 = right.2

theorem sameExpiry_equivalence : Equivalence (@SameExpiry ρ) where
  refl _ := ⟨.refl _, rfl⟩
  symm same := ⟨same.1.symm, same.2.symm⟩
  trans left right := ⟨left.1.trans right.1, left.2.trans right.2⟩

/-- A visit adds batches that depend on the rooms alone. -/
theorem visitExpired_congr (now : Time) (left right : List (List SettlementEntry) × RoomManager ρ)
    (player : PlayerId) (same : SameExpiry left right) :
    SameExpiry (visitExpired now left player) (visitExpired now right player) := by
  obtain ⟨leftBatches, manager⟩ := left
  obtain ⟨rightBatches, _⟩ := right
  obtain ⟨perm, rfl⟩ := same
  simp only [visitExpired, RoomManager.closeExpired]
  split
  · exact ⟨perm, rfl⟩
  · split
    · exact ⟨perm, rfl⟩
    · split
      · exact ⟨perm.append_right _, rfl⟩
      · exact ⟨perm, rfl⟩

section Exchange

variable {state : List (List SettlementEntry) × RoomManager ρ} (holds : ManagerInv state.2)
  (now : Time)

include holds

/-- Who is in no room is not visited. -/
theorem visitExpired_exchange_absent {one : PlayerId} (absent : state.2.playerRooms.lookup one = none)
    (other : PlayerId) :
    visitExpired now (visitExpired now state one) other =
      visitExpired now (visitExpired now state other) one := by
  have still : (visitExpired now state other).2.playerRooms.lookup one = none := by
    obtain ⟨_, same⟩ | ⟨roomId, room, _, _, next⟩ := visitExpired_cases holds now other
    · rw [same, absent]
    · rw [next]
      simp [absent]
  have first : visitExpired now state one = state := closeExpired_absent holds absent
  rw [first]
  exact (closeExpired_absent (visitExpired_sound holds now other) still).symm

/-- In one room the second visit finds the room closed. -/
theorem visitExpired_roommates {one other : PlayerId} {roomId : RoomId} {room : Room}
    (found : state.2.rooms.lookup roomId = some room) (member : one ∈ room.playerIds)
    (inside : other ∈ room.playerIds) :
    visitExpired now (visitExpired now state one) other =
      (state.1 ++ room.expiredBatches one now, state.2.closeRoom roomId room) := by
  have first : visitExpired now state one =
      (state.1 ++ room.expiredBatches one now, state.2.closeRoom roomId room) :=
    closeExpired_present holds found member
  rw [first]
  exact closeExpired_absent (holds.closeRoom found) (by simp [inside])

/-- In two rooms the visits have nothing to do with each other. -/
theorem visitExpired_apart {one other : PlayerId} {roomId otherId : RoomId} {room otherRoom : Room}
    (differ : otherId ≠ roomId) (found : state.2.rooms.lookup roomId = some room)
    (member : one ∈ room.playerIds) (there : state.2.rooms.lookup otherId = some otherRoom)
    (inside : other ∈ otherRoom.playerIds) :
    visitExpired now (visitExpired now state one) other =
      (state.1 ++ room.expiredBatches one now ++ otherRoom.expiredBatches other now,
        (state.2.closeRoom roomId room).closeRoom otherId otherRoom) := by
  have first : visitExpired now state one =
      (state.1 ++ room.expiredBatches one now, state.2.closeRoom roomId room) :=
    closeExpired_present holds found member
  rw [first]
  exact closeExpired_present (holds.closeRoom found) (by simp [differ, there]) inside

/-- Two visits may be exchanged; the batches agree if those who are gone are on one side. -/
theorem visitExpired_exchange (one other : PlayerId) :
    (visitExpired now (visitExpired now state one) other).2 =
        (visitExpired now (visitExpired now state other) one).2 ∧
      ∀ gone, state.2.OneSided gone → gone one → gone other →
        (visitExpired now (visitExpired now state one) other).1.Perm
          (visitExpired now (visitExpired now state other) one).1 := by
  obtain ⟨absent, _⟩ | ⟨roomId, room, found, member, _⟩ := visitExpired_cases holds now one
  · rw [visitExpired_exchange_absent holds now absent]
    exact ⟨rfl, fun _ _ _ _ => .refl _⟩
  obtain ⟨absent, _⟩ | ⟨otherId, otherRoom, there, inside, _⟩ := visitExpired_cases holds now other
  · rw [visitExpired_exchange_absent holds now absent one]
    exact ⟨rfl, fun _ _ _ _ => .refl _⟩
  by_cases same : otherId = roomId
  · subst same
    obtain rfl : otherRoom = room := Option.some.inj (there.symm.trans found)
    rw [visitExpired_roommates holds now found member inside,
      visitExpired_roommates holds now found inside member]
    refine ⟨rfl, fun gone oneSided left away => ?_⟩
    have entries := OneSided.same_entries (oneSided otherId otherRoom found) member inside left away now
    rw [Room.expiredBatches, entries, ← Room.expiredBatches]
  · rw [visitExpired_apart holds now same found member there inside,
      visitExpired_apart holds now (Ne.symm same) there inside found member]
    refine ⟨closeRoom_comm, fun _ _ _ _ => ?_⟩
    rw [List.append_assoc, List.append_assoc]
    exact List.perm_append_comm.append_left _

end Exchange

/-! ## Any order -/

theorem visited_perm (manager : RoomManager ρ) (now : Time) (first second : VisitOrder PlayerId) :
    ((first.visit manager.offlineSince.keys).filter (manager.expired now)).Perm
      ((second.visit manager.offlineSince.keys).filter (manager.expired now)) := by
  apply List.Perm.filter
  apply (List.perm_ext_iff_of_nodup (first.nodup _) (second.nodup _)).mpr
  intro player
  rw [first.mem_visit, second.mem_visit]

theorem cleanupExpired_eq (manager : RoomManager ρ) (order : VisitOrder PlayerId) (now : Time) :
    manager.cleanupExpired order now =
      ((order.visit manager.offlineSince.keys).filter (manager.expired now)).foldl
        (visitExpired now) ([], manager) := rfl

section Orders

variable {manager : RoomManager ρ} (holds : ManagerInv manager) (now : Time)
  (first second : VisitOrder PlayerId)

include holds

/-- What is left does not depend on the order. -/
theorem cleanupExpired_state :
    (manager.cleanupExpired first now).2 = (manager.cleanupExpired second now).2 := by
  let Same (left right : List (List SettlementEntry) × RoomManager ρ) : Prop := left.2 = right.2
  have equivalence : Equivalence Same := ⟨fun _ => rfl, Eq.symm, Eq.trans⟩
  rw [cleanupExpired_eq, cleanupExpired_eq]
  apply ExceptLoop.foldl_reorder (fun state => ManagerInv state.2) Same equivalence ?congr
    (visited_perm manager now first second)
  case kept => exact fun state player _ sound => visitExpired_sound sound now player
  case exchange =>
    exact fun state one _ other _ sound => (visitExpired_exchange sound now one other).1
  case initial => exact holds
  case congr =>
    intro left right player same
    obtain ⟨leftBatches, leftManager⟩ := left
    obtain ⟨rightBatches, rightManager⟩ := right
    obtain rfl : leftManager = rightManager := same
    simp only [visitExpired, RoomManager.closeExpired]
    split
    · rfl
    · split <;> rfl

/-- Nor do the batches, if in every room those who are gone are on one side. -/
theorem cleanupExpired_same (oneSided : manager.OneSided (manager.expired now)) :
    SameExpiry (manager.cleanupExpired first now) (manager.cleanupExpired second now) := by
  rw [cleanupExpired_eq, cleanupExpired_eq]
  apply ExceptLoop.foldl_reorder
    (fun state => ManagerInv state.2 ∧ state.2.OneSided (manager.expired now)) SameExpiry
    sameExpiry_equivalence (visitExpired_congr now) (visited_perm manager now first second)
  case kept =>
    rintro state player _ ⟨sound, sides⟩
    exact ⟨visitExpired_sound sound now player, visitExpired_oneSided sound sides now player⟩
  case exchange =>
    rintro state one member other inside ⟨sound, sides⟩
    obtain ⟨same, batches⟩ := visitExpired_exchange sound now one other
    exact ⟨batches _ sides (List.mem_filter.mp member).2 (List.mem_filter.mp inside).2, same⟩
  case initial => exact ⟨holds, oneSided⟩

end Orders

/-! ## Both sides -/

/-- The order that visits the player first. -/
def startWith (player : PlayerId) : VisitOrder PlayerId where
  visit keys :=
    if player ∈ keys then player :: (VisitOrder.ascending.visit keys).erase player
    else VisitOrder.ascending.visit keys
  nodup keys := by
    have nodup := VisitOrder.ascending.nodup keys
    split
    · exact List.nodup_cons.mpr ⟨nodup.not_mem_erase, nodup.erase player⟩
    · exact nodup
  mem_visit keys key := by
    have nodup := VisitOrder.ascending.nodup keys
    split
    · next inside =>
      rw [List.mem_cons, nodup.mem_erase_iff, VisitOrder.ascending.mem_visit]
      by_cases same : key = player
      · simp [same, inside]
      · simp [same]
    · exact VisitOrder.ascending.mem_visit keys key

/-- The room closed first, and what came later is about other rooms. -/
structure ClosedFirst (roomId : RoomId) (batch : List SettlementEntry)
    (state : List (List SettlementEntry) × RoomManager ρ) : Prop where
  sound : ManagerInv state.2
  gone : state.2.rooms.lookup roomId = none
  first : ∃ later, state.1 = batch :: later ∧
    ∀ other ∈ later, ∀ entry ∈ other, entry.gameId ≠ toString roomId

theorem settlementEntries_game {room : Room} {landlord : Nat} {won : Bool} {duration : Int}
    {entry : SettlementEntry} (member : entry ∈ room.settlementEntries landlord won duration) :
    entry.gameId = toString room.id := by
  obtain ⟨seat, found⟩ := List.mem_iff_getElem?.mp member
  exact (entry_spec found).1

theorem expiredBatches_game {room : Room} {player : PlayerId} {now : Time}
    {batch : List SettlementEntry} (given : batch ∈ room.expiredBatches player now)
    {entry : SettlementEntry} (member : entry ∈ batch) : entry.gameId = toString room.id := by
  unfold Room.expiredBatches at given
  split at given
  · rw [List.mem_singleton.mp given] at member
    cases owned : room.landlord with
    | none => simp [expiredSettlements_none owned] at member
    | some landlord =>
      obtain ⟨duration, entries⟩ := expiredSettlements_some owned now
      rw [entries] at member
      exact settlementEntries_game member
  · cases given

theorem expiredSettlements_ne_nil {room : Room} {landlord : Nat} (owned : room.landlord = some landlord)
    {player : PlayerId} (member : player ∈ room.playerIds) (now : Time) :
    room.expiredSettlements player now ≠ [] := by
  obtain ⟨duration, entries⟩ := expiredSettlements_some owned now
  have players : room.playerIds ≠ [] := List.ne_nil_of_mem member
  simpa [entries, Room.settlementEntries] using players

theorem ClosedFirst.visit {roomId : RoomId} {batch : List SettlementEntry}
    {state : List (List SettlementEntry) × RoomManager ρ} (closed : ClosedFirst roomId batch state)
    (now : Time) (player : PlayerId) : ClosedFirst roomId batch (visitExpired now state player) := by
  refine ⟨visitExpired_sound closed.sound now player, ?_, ?_⟩
  all_goals
    obtain ⟨_, same⟩ | ⟨otherId, otherRoom, found, _, next⟩ :=
      visitExpired_cases closed.sound now player
  · rw [same]
    exact closed.gone
  · rw [next]
    simp [closed.gone]
  · rw [same]
    exact closed.first
  · obtain ⟨later, split, apart⟩ := closed.first
    refine ⟨later ++ otherRoom.expiredBatches player now, by rw [next, split]; rfl, ?_⟩
    intro other member entry inside
    obtain old | new := List.mem_append.mp member
    · exact apart other old entry inside
    -- the room is closed, so this is another one with another game
    · rw [expiredBatches_game new inside, (closed.sound.room otherId otherRoom found).id]
      intro same
      rw [toString_injective same, closed.gone] at found
      cases found

/-- The first player visited settles the game of the room. -/
theorem cleanupExpired_startWith {manager : RoomManager ρ} (holds : ManagerInv manager) {now : Time}
    {player : PlayerId} {roomId : RoomId} {room : Room} {landlord : Nat}
    (found : manager.rooms.lookup roomId = some room) (member : player ∈ room.playerIds)
    (owned : room.landlord = some landlord) (gone : manager.expired now player) :
    ClosedFirst roomId (room.expiredSettlements player now)
      (manager.cleanupExpired (startWith player) now) := by
  have away : player ∈ manager.offlineSince.keys := by
    unfold RoomManager.expired at gone
    split at gone
    · cases gone
    · next since since_eq => exact UnorderedMap.mem_keys_of_find since_eq
  have nonempty := expiredSettlements_ne_nil owned member now
  have first : visitExpired now ([], manager) player =
      ([room.expiredSettlements player now], manager.closeRoom roomId room) := by
    rw [visitExpired, closeExpired_present holds found member, Room.expiredBatches, if_pos nonempty]
    rfl
  -- it comes first among those who are gone, too
  have order : (startWith player).visit manager.offlineSince.keys =
      player :: (VisitOrder.ascending.visit manager.offlineSince.keys).erase player := if_pos away
  rw [cleanupExpired_eq, order, List.filter_cons_of_pos gone, List.foldl_cons, first]
  apply ExceptLoop.foldl_spec (fun _ state => ClosedFirst roomId (room.expiredSettlements player now) state)
  · exact ⟨holds.closeRoom found, by simp, [], rfl, by simp⟩
  · exact fun _ other _ state _ closed => closed.visit now other

theorem settlementEntries_won {room : Room} {landlord : Nat} {won lost : Bool} {first second : Int}
    (players : room.playerIds ≠ [])
    (same : room.settlementEntries landlord won first = room.settlementEntries landlord lost second) :
    won = lost := by
  obtain ⟨player, others, list⟩ := List.exists_cons_of_ne_nil players
  have head := congrArg List.head? same
  simp only [Room.settlementEntries, list, List.zipIdx_cons, List.map_cons, List.head?_cons,
    Option.some.injEq, SettlementEntry.mk.injEq] at head
  obtain ⟨_, _, change, _, _⟩ := head
  -- the change of the first seat tells who won
  by_cases own : 0 = landlord <;> cases won <;> cases lost <;> simp [own] at change ⊢

/-- The batches are the same in any two orders exactly if those who are gone are on one side. -/
theorem orders_agree_iff {manager : RoomManager ρ} (holds : ManagerInv manager) (now : Time) :
    (∀ first second, SameExpiry (manager.cleanupExpired first now) (manager.cleanupExpired second now)) ↔
      manager.OneSided (manager.expired now) := by
  constructor
  · intro agree roomId room found landlord owned player member other inside left away
    obtain ⟨sound, gone, later, first, apart⟩ := cleanupExpired_startWith holds found member owned left
    obtain ⟨_, _, others, second, _⟩ := cleanupExpired_startWith holds found inside owned away
    -- the batch of the second order is one of the first order's, and about the same room
    have perm := (agree (startWith other) (startWith player)).1
    rw [first, second] at perm
    obtain ⟨duration, entries⟩ := expiredSettlements_some owned now
    have present : room.expiredSettlements other now ∈ room.expiredSettlements player now :: later :=
      perm.subset List.mem_cons_self
    have same : room.expiredSettlements other now = room.expiredSettlements player now := by
      obtain same | elsewhere := List.mem_cons.mp present
      · exact same
      · obtain ⟨entry, own⟩ := List.exists_mem_of_ne_nil _ (expiredSettlements_ne_nil owned inside now)
        have game : entry.gameId = toString room.id := by
          rw [entries] at own
          exact settlementEntries_game own
        rw [(holds.room roomId room found).id] at game
        exact absurd game (apart _ elsewhere entry own)
    rw [entries, entries] at same
    have sides := settlementEntries_won (List.ne_nil_of_mem member) same
    rw [Bool.eq_iff_iff] at sides
    simp only [bne_iff_ne, ne_eq] at sides
    tauto
  · exact fun oneSided first second => cleanupExpired_same holds now first second oneSided

/-- In any state of the rooms and at any time: what `cleanup_expired` leaves does not depend
    on the order; and what it gives out does not, exactly if in no room with a landlord
    players of both sides have expired. -/
theorem expiry_order (shuffler : Shuffler ρ) (random : ρ) (ops : List RoomOp) :
    ∃ trace finish, RoomManager.run shuffler { random } ops = .ok (trace, finish) ∧ ∀ now,
      (∀ first second, (finish.cleanupExpired first now).2 = (finish.cleanupExpired second now).2) ∧
      ((∀ first second,
        SameExpiry (finish.cleanupExpired first now) (finish.cleanupExpired second now)) ↔
          finish.OneSided (finish.expired now)) := by
  obtain ⟨trace, finish, ran, sound⟩ := run_sound shuffler (managerInv_empty random) ops
  refine ⟨trace, finish, ran, fun now => ⟨?_, orders_agree_iff sound now⟩⟩
  exact fun first second => cleanupExpired_state sound now first second

/-- The landlord and a farmer go away at the same time. -/
def bothSidesLeave : List RoomOp := [
  .matchPlayer .ascending 0 "ann",
  .matchPlayer .ascending 0 "bob",
  .matchPlayer .ascending 0 "cat",
  .callLandlord 0 0 "ann" true,
  .callLandlord 0 0 "bob" false,
  .callLandlord 0 0 "cat" false,
  .markOffline "ann" 0,
  .markOffline "bob" 0]

/-- The landlord loses if visited first, and wins if the farmer is. -/
theorem first_visited_loses : ∃ trace finish,
    RoomManager.run .identity { random := () } bothSidesLeave = .ok (trace, finish) ∧
      (finish.cleanupExpired (startWith "ann") (seconds 300)).1.map
        (List.map SettlementEntry.coinChange) = [[-200, 100, 100]] ∧
      (finish.cleanupExpired (startWith "bob") (seconds 300)).1.map
        (List.map SettlementEntry.coinChange) = [[200, -100, -100]] := by
  obtain ⟨⟨trace, finish⟩, ran, passes⟩ := ExceptLoop.exists_of_test
    (show ExceptLoop.test (fun (_, finish) =>
        decide ((finish.cleanupExpired (startWith "ann") (seconds 300)).1.map
            (List.map SettlementEntry.coinChange) = [[-200, 100, 100]] ∧
          (finish.cleanupExpired (startWith "bob") (seconds 300)).1.map
            (List.map SettlementEntry.coinChange) = [[200, -100, -100]]))
      (RoomManager.run .identity { random := () } bothSidesLeave) = true by
    decide +kernel)
  exact ⟨trace, finish, ran, of_decide_eq_true passes⟩

end Doudizhu.Gateway
