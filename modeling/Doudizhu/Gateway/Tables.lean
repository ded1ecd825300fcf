import Doudizhu.Gateway.RoomMoves
import Doudizhu.Gateway.Protocol
import Doudizhu.Gateway.Settlement

/-! # What there is to see at a table

A room state without what is only its receiver's: the three players of a room see the same
table.  An operation changes what somebody sees only at the table it is about.
-/

namespace Doudizhu.Gateway

open Game

variable {ρ : Type} {shuffler : Shuffler ρ}

/-! ## Tables -/

/-- The room state without the seat and the hand of its receiver, and without the clock. -/
def S2CRoomState.table (state : S2CRoomState) : S2CRoomState :=
  { state with selfSeat := 0, ownCards := [], actionRemainingSeconds := 0 }

/-- What there is to see of the round in the room. -/
def RoomManager.tableOf (manager : RoomManager ρ) (room : Room) (round : GameRound) : S2CRoomState where
  roomId := room.id
  selfSeat := 0
  phase := round.phase.value
  currentSeat := round.currentSeat
  landlordSeat := round.landlordSeat.getD 0
  players := room.playerIds.zipIdx.map fun (player, seat) =>
    { seat
      playerId := player
      online := (manager.offlineSince.lookup player).isNone
      remainingCards := (round.deal.hands (seatAt seat)).length }
  ownCards := []
  bottomCards := (if round.phase = .playCards then round.deal.bottomCards else []).map CardCodec.encode
  lastPlaySeat := round.lastPlaySeat.getD 0
  lastPlayCards := round.lastPlayCards.map CardCodec.encode
  actionRemainingSeconds := 0

/-- The table that the player sits at, in a game. -/
def RoomManager.table (manager : RoomManager ρ) (player : PlayerId) : Option S2CRoomState :=
  (manager.seatedRound player).map fun (room, round, _) => manager.tableOf room round

section Reading

variable {manager : RoomManager ρ} {roomId : RoomId} {room : Room} {round : GameRound} {player : PlayerId}

theorem hand_length {seat : Nat} {hand : List Card} (dealt : round.hand seat = .ok hand) :
    round.deal.hands (seatAt seat) = hand := by
  unfold GameRound.hand at dealt
  split at dealt
  · next inside =>
    cases dealt
    rw [show seatAt seat = ⟨seat, inside⟩ from Fin.ext (Nat.mod_eq_of_lt inside)]
  · cases dealt

theorem playerInfo_spec {other : PlayerId} {seat : Nat} {info : PlayerInfo}
    (read : manager.playerInfo round other seat = .ok info) :
    info = ⟨other, (manager.offlineSince.lookup other).isNone,
      (round.deal.hands (seatAt seat)).length⟩ := by
  obtain ⟨hand, dealt, same⟩ := ExceptLoop.bind_ok.mp read
  cases same
  rw [hand_length dealt]

/-- What is returned for a player in a game, and what for everybody else. -/
theorem roomState_spec (holds : ManagerInv manager) {now : Time} {state : Option RoomState}
    (read : manager.roomState now player = .ok state) :
    (manager.seatedRound player = none ∧ state = none) ∨
      ∃ room round seat remaining, manager.seatedRound player = some (room, round, seat) ∧
        remaining < 2 ^ 32 ∧
        state = some {
          roomId := room.id
          selfSeat := seat
          phase := round.phase
          currentSeat := round.currentSeat
          landlordSeat := round.landlordSeat
          players := room.playerIds.zipIdx.map fun (other, seat) =>
            ⟨other, (manager.offlineSince.lookup other).isNone, (round.deal.hands (seatAt seat)).length⟩
          ownHand := round.deal.hands (seatAt seat)
          bottomCards := if round.phase = .playCards then round.deal.bottomCards else []
          lastPlaySeat := round.lastPlaySeat
          lastPlayCards := round.lastPlayCards
          actionRemainingSeconds := remaining } := by
  unfold RoomManager.roomState at read
  split at read
  · next nobody =>
    cases read
    exact .inl ⟨nobody, rfl⟩
  · next room round seat seated =>
    obtain ⟨roomId, found, _, started, _⟩ := seatedRound_spec seated
    have three := ((holds.room _ _ found).shape.playing started).1
    rw [threePlayers_ok three] at read
    obtain ⟨_, same, read⟩ := ExceptLoop.bind_ok.mp read
    cases same
    obtain ⟨players, mapped, read⟩ := ExceptLoop.bind_ok.mp read
    obtain ⟨hand, dealt, read⟩ := ExceptLoop.bind_ok.mp read
    cases read
    have infos := ExceptLoop.mapM_eq (fun place info => @playerInfo_spec _ manager round place.1 place.2 info)
      mapped
    generalize (if room.actionDeadline > now then (room.actionDeadline - now).tdiv (seconds 1) else 0).toNat =
      remaining
    refine .inr ⟨room, round, seat, remaining % 2 ^ 32, seated, Nat.mod_lt _ (by simp), ?_⟩
    rw [hand_length dealt, infos]

/-- A room state shows the table. -/
theorem roomState_table (holds : ManagerInv manager) {now : Time} {state : Option RoomState}
    (read : manager.roomState now player = .ok state) :
    manager.table player = state.map fun state => (encodeRoomState state).table := by
  obtain ⟨nobody, rfl⟩ | ⟨room, round, seat, remaining, seated, _, rfl⟩ := roomState_spec holds read
  · rw [RoomManager.table, nobody]
    rfl
  · obtain ⟨roomId, found, _, started, _⟩ := seatedRound_spec seated
    have three := ((holds.room _ _ found).shape.playing started).1
    obtain ⟨first, second, third, ids⟩ := List.length_eq_three.mp three
    rw [RoomManager.table, seated]
    simp [RoomManager.tableOf, S2CRoomState.table, encodeRoomState, ids]

theorem seatedRound_member (holds : ManagerInv manager) (found : manager.rooms.lookup roomId = some room)
    (started : room.round = some round) (member : player ∈ room.playerIds) :
    manager.seatedRound player = some (room, round, room.seatOf player) := by
  have indexed := (holds.index player roomId).mpr ⟨room, found, member⟩
  simp [RoomManager.seatedRound, indexed, found, started, member]

theorem table_member (holds : ManagerInv manager) (found : manager.rooms.lookup roomId = some room)
    (started : room.round = some round) (member : player ∈ room.playerIds) :
    manager.table player = some (manager.tableOf room round) := by
  rw [RoomManager.table, seatedRound_member holds found started member]
  rfl

theorem table_spec {state : S2CRoomState} (sees : manager.table player = some state) :
    ∃ roomId room round, manager.rooms.lookup roomId = some room ∧ player ∈ room.playerIds ∧
      room.round = some round ∧ state = manager.tableOf room round := by
  obtain ⟨⟨room, round, seat⟩, seated, rfl⟩ := Option.map_eq_some_iff.mp sees
  obtain ⟨roomId, found, member, started, _⟩ := seatedRound_spec seated
  exact ⟨roomId, room, round, found, member, started, rfl⟩

/-- It is read for a player of the room, and lists them all. -/
theorem roomState_seats (holds : ManagerInv manager) {now : Time} {state : RoomState}
    (read : manager.roomState now player = .ok (some state)) :
    ∃ roomId room round, manager.rooms.lookup roomId = some room ∧ player ∈ room.playerIds ∧
      room.round = some round ∧ (encodeRoomState state).table = manager.tableOf room round ∧
      state.players.map PlayerInfo.playerId = room.playerIds := by
  obtain ⟨roomId, room, round, found, member, started, same⟩ := table_spec (roomState_table holds read)
  refine ⟨roomId, room, round, found, member, started, same, ?_⟩
  have ids := congrArg (fun table => table.players.map RoomPlayer.playerId) same
  simp only [S2CRoomState.table, encodeRoomState, RoomManager.tableOf, List.map_map] at ids
  calc state.players.map PlayerInfo.playerId
      = (state.players.zipIdx.map Prod.fst).map PlayerInfo.playerId := by rw [List.zipIdx_map_fst]
    _ = room.playerIds.zipIdx.map Prod.fst := by
        rw [List.map_map]
        exact ids
    _ = room.playerIds := List.zipIdx_map_fst ..

end Reading

/-! ## What changes -/

/-- Who sees something that was not there to see before, is among those who are told. -/
def Reveals (before after : RoomManager ρ) (told : List PlayerId) : Prop :=
  ∀ player state, after.table player = some state → player ∈ told ∨ before.table player = some state

section Reveals

variable {before after : RoomManager ρ} {roomId : RoomId} {room : Room} {told more : List PlayerId}

theorem Reveals.refl (manager : RoomManager ρ) (told : List PlayerId) : Reveals manager manager told :=
  fun _ _ sees => .inr sees

theorem Reveals.trans {middle : RoomManager ρ} (first : Reveals before middle told)
    (second : Reveals middle after more) : Reveals before after (told ++ more) := by
  intro player state sees
  obtain new | old := second player state sees
  · exact .inl (List.mem_append_right _ new)
  · obtain new | old := first player state old
    · exact .inl (List.mem_append_left _ new)
    · exact .inr old

theorem tableOf_congr {round : GameRound}
    (flags : ∀ player ∈ room.playerIds, after.offlineSince.lookup player = before.offlineSince.lookup player) :
    after.tableOf room round = before.tableOf room round := by
  have players : room.playerIds.zipIdx.map (fun (player, seat) =>
        (⟨seat, player, (after.offlineSince.lookup player).isNone,
          (round.deal.hands (seatAt seat)).length⟩ : RoomPlayer)) =
      room.playerIds.zipIdx.map fun (player, seat) =>
        ⟨seat, player, (before.offlineSince.lookup player).isNone,
          (round.deal.hands (seatAt seat)).length⟩ := by
    refine List.map_congr_left ?_
    intro ⟨player, seat⟩ place
    have member := List.mem_of_getElem? (List.mk_mem_zipIdx_iff_getElem?.mp place)
    simp only [flags player member]
  simp only [RoomManager.tableOf, players]

/-- One room changes, and its players are told if they are in a game. -/
theorem reveals_room (roomId : RoomId)
    (index : ∀ player other, other ≠ roomId → after.playerRooms.lookup player = some other →
      before.playerRooms.lookup player = some other)
    (others : ∀ other, other ≠ roomId → after.rooms.lookup other = before.rooms.lookup other)
    (own : ∀ room round, after.rooms.lookup roomId = some room → room.round = some round →
      ∀ player ∈ room.playerIds, player ∈ told)
    (flags : ∀ other room, other ≠ roomId → before.rooms.lookup other = some room →
      ∀ player ∈ room.playerIds, after.offlineSince.lookup player = before.offlineSince.lookup player) :
    Reveals before after told := by
  intro player state sees
  obtain ⟨⟨room, round, seat⟩, seated, rfl⟩ := Option.map_eq_some_iff.mp sees
  unfold RoomManager.seatedRound at seated
  split at seated
  · cases seated
  next other indexed =>
  split at seated
  · cases seated
  next found =>
  split at seated
  · cases seated
  next started =>
  split at seated
  · next member =>
    cases seated
    by_cases same : other = roomId
    · subst same
      exact .inl (own room round found started player member)
    · rw [others other same] at found
      refine .inr ?_
      simp only [RoomManager.table, RoomManager.seatedRound, index player other same indexed, found,
        started, member, if_true, Option.map_some, Option.some.injEq]
      exact (tableOf_congr (flags other room same found)).symm
  · cases seated

/-- Nobody sees more of a room that is gone. -/
theorem reveals_removed (holds : ManagerInv before) (found : before.rooms.lookup roomId = some room)
    (rooms : after.rooms = (before.removeRoom roomId room).rooms)
    (players : after.playerRooms = (before.removeRoom roomId room).playerRooms)
    (offline : after.offlineSince = (before.removeRoom roomId room).offlineSince) :
    Reveals before after [] := by
  refine reveals_room roomId ?_ ?_ ?_ ?_
  · intro player other _ indexed
    rw [players, find_removeRoom_player] at indexed
    split at indexed
    · cases indexed
    · exact indexed
  · intro other differ
    rw [rooms, find_removeRoom, if_neg differ]
  · intro room round present
    rw [rooms, find_removeRoom, if_pos rfl] at present
    cases present
  · intro other otherRoom differ otherFound player member
    have apart : player ∉ room.playerIds := fun inside =>
      differ (holds.unique otherFound member found inside)
    rw [offline, find_removeRoom_offline, if_neg apart]

/-- Whether a player is online is seen at the player's table. -/
theorem reveals_flag {player : PlayerId} (rooms : after.rooms = before.rooms)
    (players : after.playerRooms = before.playerRooms)
    (flags : ∀ other, other ≠ player → after.offlineSince.lookup other = before.offlineSince.lookup other)
    (mates : ∀ roomId room round, before.rooms.lookup roomId = some room → room.round = some round →
      player ∈ room.playerIds → room.playerIds ⊆ told) : Reveals before after told := by
  intro other state sees
  have same : after.seatedRound other = before.seatedRound other := by
    simp only [RoomManager.seatedRound, rooms, players]
  obtain ⟨⟨room, round, seat⟩, seated, rfl⟩ := Option.map_eq_some_iff.mp sees
  rw [same] at seated
  obtain ⟨roomId, found, member, started, _⟩ := seatedRound_spec seated
  by_cases inside : player ∈ room.playerIds
  · exact .inl (mates roomId room round found started inside member)
  · refine .inr ?_
    rw [RoomManager.table, seated, Option.map_some, Option.some.injEq]
    refine (tableOf_congr fun mate seat => flags mate ?_).symm
    rintro rfl
    exact inside seat

end Reveals

/-! ## Operations -/

section Operations

variable {manager next : RoomManager ρ} {roomId : RoomId} {room : Room} {round : GameRound} {now : Time}

section Acted

variable {roundNow : Time} {player : PlayerId} {op : Nat → RoundOp} {acted : RoomManager.Acted}
  {state : Game.RoundState ρ}

theorem ActedAs.reveals
    (spec : ActedAs shuffler manager roundNow now player op acted next room round state) :
    Reveals manager next acted.players := by
  have placed : next.rooms.lookup acted.roomId = some acted.room := by
    rw [spec.after]
    simp [RoomManager.putRoom]
  refine reveals_room acted.roomId ?_ ?_ ?_ ?_
  · intro other otherId _ indexed
    rw [spec.after] at indexed
    exact indexed
  · intro other differ
    rw [spec.after]
    simp [RoomManager.putRoom, differ]
  · intro room round found _ mate member
    rw [placed] at found
    cases found
    rw [spec.kept, keep_playerIds] at member
    exact spec.players ▸ member
  · intro other room _ _ mate _
    rw [spec.after]
    rfl

theorem ActedAs.reveals_removed (holds : ManagerInv manager)
    (spec : ActedAs shuffler manager roundNow now player op acted next room round state) :
    Reveals manager (next.removeRoom acted.room.id acted.room) [] := by
  rw [spec.removed holds]
  exact Gateway.reveals_removed holds spec.found rfl rfl rfl

end Acted

/-- Who starts a game is told. -/
theorem matchPlayer_reveals (holds : ManagerInv manager) {order : VisitOrder RoomId} {player : PlayerId}
    {result : MatchResult} (done : manager.matchPlayer shuffler order now player = .ok (result, next)) :
    Reveals manager next (result.gameStart.elim [] GameStartInfo.playerIds) := by
  unfold RoomManager.matchPlayer at done
  obtain ⟨roomId, room, found, _⟩ | ⟨found, absent⟩ := findPlayer_spec holds order player
  · simp only [found] at done
    cases done
    exact .refl _ _
  · obtain ⟨roomId, room, opened⟩ := openWaitingRoom_spec holds now
    have present : (manager.openWaitingRoom now).rooms.lookup roomId = some room := by
      rw [opened.rooms, UnorderedMap.find_insert, if_pos rfl]
    have own := opened.waits.id
    -- the seat that is taken is in the room that waits
    have seated : ∀ {joined : Room} {after : RoomManager ρ} {told : List PlayerId},
        after.rooms = (manager.openWaitingRoom now).rooms.insert roomId joined →
        after.playerRooms = (manager.openWaitingRoom now).playerRooms.insert player room.id →
        after.offlineSince = (manager.openWaitingRoom now).offlineSince →
        (joined.round ≠ none → joined.playerIds ⊆ told) → Reveals manager after told := by
      intro joined after told rooms players offline listed
      refine reveals_room roomId ?_ ?_ ?_ ?_
      · intro other otherId differ indexed
        rw [players, UnorderedMap.find_insert, own] at indexed
        split at indexed
        · cases indexed
          exact absurd rfl differ
        · rwa [opened.index] at indexed
      · intro other differ
        simp [rooms, opened.rooms, differ]
      · intro after round found started mate member
        rw [rooms, UnorderedMap.find_insert, if_pos rfl] at found
        cases found
        exact listed (by simp [started]) member
      · intro other otherRoom _ _ mate _
        rw [offline, opened.offline]
    simp only [found, RoomManager.waitingRoom, opened.waiting, RoomManager.roomAt, present, bind,
      Except.bind] at done
    split at done
    · next three =>
      have players : Room.threePlayers { room with
          playerIds := room.playerIds ++ [player], lastActivity := now } =
          .ok (room.playerIds ++ [player]) := threePlayers_ok three
      simp only [players] at done
      cases done
      refine seated rfl rfl rfl ?_
      intro _ mate member
      simpa using member
    · cases done
      exact seated rfl rfl rfl fun started => absurd opened.waits.idle started

theorem timeoutRoom_reveals (holds : ManagerInv manager) {startedAt : Time} {actions later : List TimeoutAction}
    (found : manager.rooms.lookup roomId = some room) (started : room.round = some round)
    (done : RoomManager.timeoutRoom shuffler now startedAt actions manager roomId room round =
      .ok (later, next)) :
    ∃ action, later = actions ++ [action] ∧ Reveals manager next action.playerIds := by
  obtain ⟨state, timed, returns⟩ := timeoutRoom_done shuffler holds now startedAt actions found started
  rw [returns] at done
  cases done
  refine ⟨_, rfl, ?_⟩
  by_cases settled : state.round.phase = .settled
  · simp only [settled, if_true]
    intro player shown sees
    have gone : Reveals manager { manager.removeRoom roomId room with random := state.random } [] :=
      reveals_removed holds found rfl rfl rfl
    exact .inr ((gone player shown sees).resolve_left (by simp))
  · simp only [settled, if_false]
    refine reveals_room roomId ?_ ?_ ?_ ?_
    · exact fun _ _ _ indexed => indexed
    · intro other differ
      simp [RoomManager.putRoom, differ]
    · intro after round present _ mate member
      have placed : (manager.putRoom roomId (room.keep state.round true now)).rooms.lookup roomId =
          some (room.keep state.round true now) := by simp [RoomManager.putRoom]
      obtain rfl := Option.some.inj (placed.symm.trans present)
      simpa using member
    · exact fun _ _ _ _ _ _ => rfl

theorem timeoutExpired_reveals (holds : ManagerInv manager) {order : VisitOrder RoomId}
    {startedAt : RoomId → Time} {actions : List TimeoutAction}
    (done : manager.timeoutExpired shuffler order now startedAt = .ok (actions, next)) :
    Reveals manager next (actions.flatMap TimeoutAction.playerIds) := by
  suffices ManagerInv next ∧ Reveals manager next (actions.flatMap TimeoutAction.playerIds) from this.2
  refine ExceptLoop.foldlM_kept (fun (state : List TimeoutAction × RoomManager ρ) =>
    ManagerInv state.2 ∧ Reveals manager state.2 (state.1.flatMap TimeoutAction.playerIds)) done
    ⟨holds, .refl _ _⟩ ?_
  intro ⟨before, current⟩ roomId ⟨after, later⟩ visited ⟨sound, reveals⟩
  unfold RoomManager.timeoutVisit at visited
  split at visited
  · cases visited
    exact ⟨sound, reveals⟩
  next room found =>
  split at visited
  · cases visited
    exact ⟨sound, reveals⟩
  next round started =>
  split at visited
  · cases visited
    exact ⟨sound, reveals⟩
  · obtain ⟨action, rfl, more⟩ := timeoutRoom_reveals sound found started visited
    obtain ⟨_, _, _, returns, move, _⟩ := timeoutRoom_spec shuffler sound before found started
    obtain ⟨_, rfl⟩ := Prod.mk.inj (Except.ok.inj (returns.symm.trans visited))
    refine ⟨managerInv_move sound move, ?_⟩
    rw [List.flatMap_append, List.flatMap_singleton]
    exact reveals.trans more

/-- A room that is dropped shows nothing. -/
theorem dropRoom_reveals (holds : ManagerInv manager) (found : manager.rooms.lookup roomId = some room) :
    Reveals manager ((manager.stopWaiting room).removeRoom roomId room) [] := by
  rw [stopWaiting_eq]
  exact reveals_removed holds found rfl rfl rfl

theorem cleanupIdle_reveals (holds : ManagerInv manager) (order : VisitOrder RoomId) (now : Time) :
    Reveals manager (manager.cleanupIdle order now) [] := by
  suffices ManagerInv (manager.cleanupIdle order now) ∧ Reveals manager (manager.cleanupIdle order now) [] from
    this.2
  refine ExceptLoop.foldl_spec (fun _ (current : RoomManager ρ) =>
    ManagerInv current ∧ Reveals manager current []) _ manager ⟨holds, .refl _ _⟩ ?_
  intro visited roomId rest current _ ⟨sound, reveals⟩
  unfold RoomManager.closeIdle
  split
  · exact ⟨sound, reveals⟩
  next room found =>
  split
  · exact ⟨sound, reveals⟩
  · exact ⟨sound.dropRoom found, reveals.trans (dropRoom_reveals sound found)⟩

theorem cleanupExpired_reveals (holds : ManagerInv manager) (order : VisitOrder PlayerId) (now : Time) :
    Reveals manager (manager.cleanupExpired order now).2 [] := by
  suffices ManagerInv (manager.cleanupExpired order now).2 ∧
      Reveals manager (manager.cleanupExpired order now).2 [] from this.2
  refine ExceptLoop.foldl_spec (fun _ (state : List (List SettlementEntry) × RoomManager ρ) =>
    ManagerInv state.2 ∧ Reveals manager state.2 []) _ ([], manager) ⟨holds, .refl _ _⟩ ?_
  intro visited player rest ⟨rooms, current⟩ _ ⟨sound, reveals⟩
  show ManagerInv (RoomManager.closeExpired now rooms current player).2 ∧
    Reveals manager (RoomManager.closeExpired now rooms current player).2 []
  unfold RoomManager.closeExpired
  split
  · next absent =>
    rw [UnorderedMap.erase_absent (sound.offline_absent absent)]
    exact ⟨sound, reveals⟩
  next roomId indexed =>
  obtain ⟨room, found, member⟩ := sound.found indexed
  simp only [found]
  exact ⟨sound.dropRoom found, reveals.trans (dropRoom_reveals sound found)⟩

end Operations

end Doudizhu.Gateway
