import Doudizhu.Gateway.RoomMoves

/-! # What an operation does to the players

Which players are in rooms, and which are marked offline, as the sessions see it: a player
enters by `matchPlayer` only, and `markOnline` and `markOffline` alone touch the marks of
players who stay in their rooms.
-/

namespace Doudizhu.Gateway

open Game

variable {ρ : Type} {shuffler : Shuffler ρ}

/-- Players may have left their rooms.  The others are as they were. -/
def Shrinks (before after : RoomManager ρ) : Prop :=
  ∀ player, after.playerRooms.lookup player = none ∨
    (after.playerRooms.lookup player = before.playerRooms.lookup player ∧
      after.offlineSince.lookup player = before.offlineSince.lookup player)

theorem Shrinks.of_same {before after : RoomManager ρ} (rooms : after.playerRooms = before.playerRooms)
    (offline : after.offlineSince = before.offlineSince) : Shrinks before after := by
  intro player
  rw [rooms, offline]
  exact .inr ⟨rfl, rfl⟩

theorem Shrinks.refl (manager : RoomManager ρ) : Shrinks manager manager := .of_same rfl rfl

theorem Shrinks.trans {first second third : RoomManager ρ} (left : Shrinks first second)
    (right : Shrinks second third) : Shrinks first third := by
  intro player
  obtain gone | ⟨rooms, offline⟩ := right player
  · exact .inl gone
  · obtain gone | ⟨earlierRooms, earlierOffline⟩ := left player
    · exact .inl (rooms.trans gone)
    · exact .inr ⟨rooms.trans earlierRooms, offline.trans earlierOffline⟩

/-- Erasing a room shrinks, whatever else was done to the rooms. -/
theorem shrinks_removeRoom {before current : RoomManager ρ} (roomId : RoomId) (room : Room)
    (rooms : current.playerRooms = before.playerRooms)
    (offline : current.offlineSince = before.offlineSince) :
    Shrinks before (current.removeRoom roomId room) := by
  intro player
  rw [find_removeRoom_player, find_removeRoom_offline, rooms, offline]
  by_cases member : player ∈ room.playerIds <;> simp [member]

/-! ## The calls of a player -/

/-- `act` leaves the players alone, and has an answer for players in rooms only. -/
theorem act_players {manager next : RoomManager ρ} {roundNow now : Time} {player : PlayerId}
    {op : Nat → RoundOp} {acted : Option RoomManager.Acted}
    (done : manager.act shuffler roundNow now player op = .ok (acted, next)) :
    next.playerRooms = manager.playerRooms ∧ next.offlineSince = manager.offlineSince ∧
      (acted ≠ none → manager.playerRooms.lookup player ≠ none) := by
  unfold RoomManager.act at done
  cases indexed : manager.playerRooms.lookup player with
  | none =>
    rw [indexed] at done
    cases done
    exact ⟨rfl, rfl, fun some => absurd rfl some⟩
  | some roomId =>
    rw [indexed] at done
    obtain ⟨room, _, done⟩ := ExceptLoop.bind_ok.mp done
    split at done
    · cases done
      exact ⟨rfl, rfl, fun _ => by simp⟩
    · obtain ⟨_, _, done⟩ := ExceptLoop.bind_ok.mp done
      obtain ⟨_, _, done⟩ := ExceptLoop.bind_ok.mp done
      cases done
      exact ⟨rfl, rfl, fun _ => by simp⟩

section Calls

variable (shuffler) {manager : RoomManager ρ} (holds : ManagerInv manager) (player : PlayerId)

include holds

theorem callLandlord_players (startedAt now : Time) (call : Bool) :
    ∃ result next, manager.callLandlord shuffler startedAt now player call = .ok (result, next) ∧
      ManagerInv next ∧ Shrinks manager next ∧
      (result ≠ none → manager.playerRooms.lookup player ≠ none) := by
  obtain ⟨result, next, events, done, comes⟩ := callLandlord_comes shuffler holds startedAt now player call
  refine ⟨result, next, done, managerInv_moves holds comes.moves, ?_⟩
  obtain ⟨⟨acted, other⟩, act, same⟩ := ExceptLoop.bind_ok.mp done
  cases same
  obtain ⟨rooms, offline, seated⟩ := act_players act
  exact ⟨.of_same rooms offline, fun answered => seated (by simpa using answered)⟩

theorem pass_players (now : Time) :
    ∃ result next, manager.pass shuffler now player = .ok (result, next) ∧
      ManagerInv next ∧ Shrinks manager next ∧
      (result ≠ none → manager.playerRooms.lookup player ≠ none) := by
  obtain ⟨result, next, events, done, comes⟩ := pass_comes shuffler holds now player
  refine ⟨result, next, done, managerInv_moves holds comes.moves, ?_⟩
  obtain ⟨⟨acted, other⟩, act, same⟩ := ExceptLoop.bind_ok.mp done
  cases same
  obtain ⟨rooms, offline, seated⟩ := act_players act
  exact ⟨.of_same rooms offline, fun answered => seated (by simpa using answered)⟩

theorem playCards_players (now endedAt : Time) (cards : List Card) :
    ∃ result next, manager.playCards shuffler now endedAt player cards = .ok (result, next) ∧
      ManagerInv next ∧ Shrinks manager next ∧
      (result ≠ none → manager.playerRooms.lookup player ≠ none) := by
  obtain ⟨result, next, events, done, comes, _⟩ :=
    playCards_comes shuffler holds now endedAt player cards
  refine ⟨result, next, done, managerInv_moves holds comes.moves, ?_⟩
  obtain ⟨⟨acted, other⟩, act, done⟩ := ExceptLoop.bind_ok.mp done
  obtain ⟨rooms, offline, seated⟩ := act_players act
  cases acted with
  | none =>
    cases done
    exact ⟨.of_same rooms offline, fun answered => absurd rfl answered⟩
  | some acted =>
    have present := seated (by simp)
    simp only at done
    split at done
    · cases done
      exact ⟨shrinks_removeRoom _ _ rooms offline, fun _ => present⟩
    · cases done
      exact ⟨.of_same rooms offline, fun _ => present⟩

theorem reconnectInfo_players :
    ∃ info, manager.reconnectInfo player = .ok info ∧
      (info ≠ none → manager.playerRooms.lookup player ≠ none) := by
  obtain ⟨info, done⟩ := reconnectInfo_ok holds player
  refine ⟨info, done, fun answered absent => answered ?_⟩
  simp only [RoomManager.reconnectInfo, RoomManager.seatedRound, absent] at done
  exact (Except.ok.inj done).symm

/-- A match lets its player in, and no other. -/
theorem matchPlayer_players (order : VisitOrder RoomId) (now : Time) :
    ∃ result next, manager.matchPlayer shuffler order now player = .ok (result, next) ∧
      ManagerInv next ∧ next.offlineSince = manager.offlineSince ∧
      ∀ other, other ≠ player → next.playerRooms.lookup other = manager.playerRooms.lookup other := by
  obtain ⟨result, next, events, done, comes⟩ := matchPlayer_comes shuffler holds order now player
  refine ⟨result, next, done, managerInv_moves holds comes.moves, ?_⟩
  have opened : (manager.openWaitingRoom now).playerRooms = manager.playerRooms ∧
      (manager.openWaitingRoom now).offlineSince = manager.offlineSince := by
    unfold RoomManager.openWaitingRoom
    split <;> exact ⟨rfl, rfl⟩
  unfold RoomManager.matchPlayer at done
  split at done
  · cases done
    exact ⟨rfl, fun _ _ => rfl⟩
  · obtain ⟨roomId, _, done⟩ := ExceptLoop.bind_ok.mp done
    obtain ⟨room, _, done⟩ := ExceptLoop.bind_ok.mp done
    simp only at done
    have entered : ∀ other, other ≠ player → ∀ id : RoomId,
        ((manager.openWaitingRoom now).playerRooms.insert player id).lookup other =
          manager.playerRooms.lookup other := by
      intro other differ id
      rw [UnorderedMap.find_insert, if_neg differ, opened.1]
    split at done
    · obtain ⟨_, _, done⟩ := ExceptLoop.bind_ok.mp done
      cases done
      exact ⟨opened.2, fun other differ => entered other differ _⟩
    · cases done
      exact ⟨opened.2, fun other differ => entered other differ _⟩

end Calls

/-! ## The timer -/

theorem timeoutVisit_players {now : Time} {startedAt : RoomId → Time}
    {state next : List TimeoutAction × RoomManager ρ} {roomId : RoomId}
    (done : RoomManager.timeoutVisit shuffler now startedAt state roomId = .ok next) :
    Shrinks state.2 next.2 := by
  unfold RoomManager.timeoutVisit at done
  split at done
  · cases done
    exact .refl _
  · next room found =>
    split at done
    · cases done
      exact .refl _
    · next round started =>
      split at done
      · cases done
        exact .refl _
      · obtain ⟨⟨accepted, moved⟩, _, done⟩ := ExceptLoop.bind_ok.mp done
        simp only at done
        split at done
        · obtain ⟨_, _, done⟩ := ExceptLoop.bind_ok.mp done
          split at done
          · cases done
            exact shrinks_removeRoom _ _ rfl rfl
          · cases done
            exact .of_same rfl rfl
        · cases done
          exact .of_same rfl rfl

theorem closeIdle_players (now : Time) (manager : RoomManager ρ) (roomId : RoomId) :
    Shrinks manager (manager.closeIdle now roomId) := by
  unfold RoomManager.closeIdle
  split
  · exact .refl _
  · split
    · exact .refl _
    · rw [stopWaiting_eq]
      exact shrinks_removeRoom _ _ rfl rfl

theorem closeExpired_players (now : Time) (rooms : List (List SettlementEntry))
    (manager : RoomManager ρ) (player : PlayerId) :
    Shrinks manager (manager.closeExpired now rooms player).2 := by
  unfold RoomManager.closeExpired
  split
  · next absent =>
    intro other
    by_cases same : other = player
    · exact .inl (same ▸ absent)
    · exact .inr ⟨rfl, by simp [same]⟩
  · split
    · intro other
      by_cases same : other = player <;> simp [UnorderedMap.find_erase, same]
    · simp only [stopWaiting_eq]
      exact shrinks_removeRoom _ _ rfl rfl

section Timer

variable (shuffler) {manager : RoomManager ρ} (holds : ManagerInv manager)

include shuffler holds

theorem timeoutExpired_players (order : VisitOrder RoomId) (now : Time) (startedAt : RoomId → Time) :
    ∃ actions next, manager.timeoutExpired shuffler order now startedAt = .ok (actions, next) ∧
      ManagerInv next ∧ Shrinks manager next := by
  obtain ⟨actions, next, done, loop⟩ := timeoutExpired_loop shuffler holds order now startedAt
  obtain ⟨events, comes, _⟩ := loop.moves
  refine ⟨actions, next, done, managerInv_moves holds comes.moves, ?_⟩
  exact ExceptLoop.foldlM_kept (fun state => Shrinks manager state.2) done (.refl manager)
    fun _ _ _ visited kept => kept.trans (timeoutVisit_players visited)

theorem cleanupIdle_players (order : VisitOrder RoomId) (now : Time) :
    ManagerInv (manager.cleanupIdle order now) ∧ Shrinks manager (manager.cleanupIdle order now) := by
  obtain ⟨events, comes⟩ := cleanupIdle_comes shuffler order now
  refine ⟨managerInv_moves holds comes.moves, ?_⟩
  exact ExceptLoop.foldl_spec (fun _ current => Shrinks manager current) _ manager (.refl manager)
    fun _ _ _ current _ kept => kept.trans (closeIdle_players now current _)

theorem cleanupExpired_players (order : VisitOrder PlayerId) (now : Time) :
    ManagerInv (manager.cleanupExpired order now).2 ∧
      Shrinks manager (manager.cleanupExpired order now).2 := by
  obtain ⟨events, comes, _⟩ := cleanupExpired_comes shuffler holds order now
  refine ⟨managerInv_moves holds comes.moves, ?_⟩
  exact ExceptLoop.foldl_spec (fun _ state => Shrinks manager state.2) _ ([], manager)
    (.refl manager) fun _ _ _ state _ kept => kept.trans (closeExpired_players now state.1 state.2 _)

end Timer

end Doudizhu.Gateway
