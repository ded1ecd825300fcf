import Mathlib.Data.List.Forall2
import Doudizhu.Gateway.RoomRuns

/-! # Turns and their deadlines

`acceptedIn` says from a call and its answer whether it was accepted in a room, and when;
`lastAccepted` is the latest such reading of a run.  `Timely` ties the deadlines to it, and
with it the timer acts in a room exactly when the holder of the turn has had the full time.
-/

namespace Doudizhu.Gateway

open Game

variable {ρ : Type} {shuffler : Shuffler ρ}

/-! ## Deadlines of a room -/

/-- How long a turn may take. -/
def turnLimit (phase : GamePhase) : Time :=
  if phase = .callLandlord then seconds 10 else seconds 15

theorem refreshDeadline_deadline {room : Room} {round : GameRound} {now : Time}
    (started : room.round = some round) (unsettled : round.phase ≠ .settled) :
    (room.refreshDeadline now).actionDeadline = now + turnLimit round.phase := by
  simp only [Room.refreshDeadline, started, unsettled, if_false, turnLimit]
  split <;> rfl

@[simp] theorem refreshDeadline_lastActivity (room : Room) (now : Time) :
    (room.refreshDeadline now).lastActivity = room.lastActivity := by
  obtain ⟨deadline, equal⟩ := refreshDeadline_eq room now
  rw [equal]

/-- The room's deadline is that of its turn, counted from the last activity. -/
def Room.Timely (room : Room) : Prop :=
  ∀ round ∈ room.round, room.actionDeadline = room.lastActivity + turnLimit round.phase

theorem keep_timely (room : Room) {round : GameRound} (now : Time)
    (unsettled : round.phase ≠ .settled) :
    (room.keep round true now).lastActivity = now ∧ (room.keep round true now).Timely := by
  refine ⟨by simp [Room.keep], ?_⟩
  intro other started
  rw [keep_round] at started
  cases started
  simp only [Room.keep, if_true, refreshDeadline_lastActivity]
  exact refreshDeadline_deadline rfl unsettled

/-! ## The timer -/

theorem exists_of_forall₂ {α β : Type} {Relates : α → β → Prop} {left : List α} {right : List β}
    (related : List.Forall₂ Relates left right) : ∀ one ∈ left, ∃ other ∈ right, Relates one other := by
  induction related with
  | nil => simp
  | cons first _ inductionHypothesis =>
    intro one member
    obtain rfl | later := List.mem_cons.mp member
    · exact ⟨_, List.mem_cons_self, first⟩
    · obtain ⟨other, inside, relates⟩ := inductionHypothesis one later
      exact ⟨other, List.mem_cons_of_mem _ inside, relates⟩

/-- The room has a round whose turn is over. -/
def RoomManager.overdue (manager : RoomManager ρ) (now : Time) (roomId : RoomId) : Bool :=
  match manager.rooms.lookup roomId with
  | none => false
  | some room => room.round.isSome && room.actionDeadline ≤ now

/-- `action` reports the timeout of a room: the automatic move of the seat whose turn it was,
    after which the room goes on with a new deadline, or ends. -/
def TimedOut (shuffler : Shuffler ρ) (now : Time) (startedAt : RoomId → Time)
    (before after : RoomManager ρ) (roomId : RoomId) (action : TimeoutAction) : Prop :=
  ∃ room round random state, before.rooms.lookup roomId = some room ∧ room.round = some round ∧
    RoundOp.timeout.exec shuffler (startedAt roomId) ⟨round, random⟩ = .ok (true, state) ∧
    action.playerIds = room.playerIds ∧ action.actorSeat = round.currentSeat ∧
    action.phase = state.round.phase ∧ action.currentSeat = state.round.currentSeat ∧
    after.rooms.lookup roomId =
      if state.round.phase = .settled then none else some (room.keep state.round true now)

/-- What holds of the loop over the rooms after `visited`: one action for each overdue room,
    in the order of the visits, and the others as they were. -/
structure DeadlineLoop (shuffler : Shuffler ρ) (now : Time) (startedAt : RoomId → Time)
    (manager : RoomManager ρ) (visited : List RoomId) (actions : List TimeoutAction)
    (current : RoomManager ρ) : Prop where
  sound : ManagerInv current
  acted : List.Forall₂ (TimedOut shuffler now startedAt manager current)
    (visited.filter (manager.overdue now)) actions
  others : ∀ roomId, roomId ∉ visited.filter (manager.overdue now) →
    current.rooms.lookup roomId = manager.rooms.lookup roomId

section Loop

variable {now : Time} {startedAt : RoomId → Time} {manager current : RoomManager ρ}
  {visited : List RoomId} {actions : List TimeoutAction} {roomId : RoomId}

theorem DeadlineLoop.skip
    (loop : DeadlineLoop shuffler now startedAt manager visited actions current)
    (early : manager.overdue now roomId = false) :
    DeadlineLoop shuffler now startedAt manager (visited ++ [roomId]) actions current := by
  have same : (visited ++ [roomId]).filter (manager.overdue now) =
      visited.filter (manager.overdue now) := by simp [early]
  exact ⟨loop.sound, same ▸ loop.acted, same ▸ loop.others⟩

theorem DeadlineLoop.act {next : RoomManager ρ} {action : TimeoutAction}
    (loop : DeadlineLoop shuffler now startedAt manager visited actions current)
    (new : roomId ∉ visited) (late : manager.overdue now roomId = true) (sound : ManagerInv next)
    (timedOut : TimedOut shuffler now startedAt manager next roomId action)
    (rest : ∀ other, other ≠ roomId → next.rooms.lookup other = current.rooms.lookup other) :
    DeadlineLoop shuffler now startedAt manager (visited ++ [roomId]) (actions ++ [action]) next := by
  have more : (visited ++ [roomId]).filter (manager.overdue now) =
      visited.filter (manager.overdue now) ++ [roomId] := by simp [late]
  have old : ∀ other ∈ visited.filter (manager.overdue now), other ≠ roomId := by
    rintro other member rfl
    exact new (List.mem_filter.mp member).1
  refine ⟨sound, ?_, ?_⟩
  · rw [more]
    refine List.rel_append ?_ (.cons timedOut .nil)
    -- the rooms of the earlier actions are not touched again
    refine ((List.forall₂_and_left _ _).mpr ⟨old, loop.acted⟩).imp ?_
    rintro other earlier ⟨differ, room, round, random, state, found, started, done, players, actor, phase,
      turn, after⟩
    exact ⟨room, round, random, state, found, started, done, players, actor, phase, turn,
      (rest other differ).trans after⟩
  · intro other absent
    rw [more, List.mem_append, not_or, List.mem_singleton] at absent
    rw [rest other absent.2, loop.others other absent.1]

/-- Where the timer leaves the rooms after the timeout of one. -/
theorem timedOut_rooms {room : Room} {round : GameRound} {state : RoundState ρ}
    (holds : ManagerInv current) (found : current.rooms.lookup roomId = some room)
    (started : room.round = some round) {at_ : Time}
    (done : RoundOp.timeout.exec shuffler at_ ⟨round, current.random⟩ = .ok (true, state)) :
    ∀ next, next = { (if state.round.phase = .settled then current.removeRoom roomId room
          else current.putRoom roomId (room.keep state.round true now)) with random := state.random } →
      ManagerInv next ∧ ∀ other, next.rooms.lookup other =
        if other = roomId then
          if state.round.phase = .settled then none else some (room.keep state.round true now)
        else current.rooms.lookup other := by
  rintro next rfl
  by_cases settled : state.round.phase = .settled
  · simp only [settled, if_true]
    have move : RoomMove shuffler current (.settled roomId (room.settlements state.round now)) _ :=
      .settled found started done settled
    exact ⟨managerInv_move holds move, fun other => find_removeRoom ..⟩
  · simp only [settled, if_false]
    have move : RoomMove shuffler current (.moved roomId)
        { current.putRoom roomId (room.keep state.round true now) with random := state.random } :=
      .moved found started done settled (by simp) (by simp) (by simp)
    exact ⟨managerInv_move holds move, fun other => UnorderedMap.find_insert ..⟩

/-- What the timer does in an overdue room. -/
structure ActedFor (shuffler : Shuffler ρ) (now startedAt : Time) (current : RoomManager ρ)
    (roomId : RoomId) (room : Room) (round : GameRound) (state : RoundState ρ) (action : TimeoutAction)
    (next : RoomManager ρ) : Prop where
  found : current.rooms.lookup roomId = some room
  started : room.round = some round
  done : RoundOp.timeout.exec shuffler startedAt ⟨round, current.random⟩ = .ok (true, state)
  reported : action = {
    playerIds := room.playerIds
    actorSeat := round.currentSeat
    phase := state.round.phase
    currentSeat := state.round.currentSeat
    settlements := if state.round.phase = .settled then room.settlements state.round now else [] }
  sound : ManagerInv next
  rooms : ∀ other, next.rooms.lookup other =
    if other = roomId then
      if state.round.phase = .settled then none else some (room.keep state.round true now)
    else current.rooms.lookup other

theorem timeoutVisit_cases (holds : ManagerInv current) (now : Time) (startedAt : RoomId → Time)
    (actions : List TimeoutAction) (roomId : RoomId) :
    (current.overdue now roomId = false ∧
      RoomManager.timeoutVisit shuffler now startedAt (actions, current) roomId = .ok (actions, current)) ∨
    (current.overdue now roomId = true ∧ ∃ room round state action next,
      RoomManager.timeoutVisit shuffler now startedAt (actions, current) roomId =
        .ok (actions ++ [action], next) ∧
      ActedFor shuffler now (startedAt roomId) current roomId room round state action next) := by
  unfold RoomManager.timeoutVisit RoomManager.overdue
  dsimp only
  cases found : current.rooms.lookup roomId with
  | none => exact .inl ⟨rfl, rfl⟩
  | some room =>
    dsimp only
    cases started : room.round with
    | none => exact .inl ⟨rfl, rfl⟩
    | some round =>
      dsimp only
      split
      · next early => exact .inl ⟨by simpa using early, rfl⟩
      · next late =>
        obtain ⟨state, done, timedOut⟩ := timeoutRoom_done shuffler holds now
          (startedAt roomId) actions found started
        obtain ⟨sound, rooms⟩ := timedOut_rooms holds found started done _ rfl
        exact .inr ⟨by simpa using late, room, round, state, _, _, timedOut, found, started, done, rfl,
          sound, rooms⟩

theorem timeoutVisit_deadlines (new : roomId ∉ visited)
    (loop : DeadlineLoop shuffler now startedAt manager visited actions current) :
    ∃ next, RoomManager.timeoutVisit shuffler now startedAt (actions, current) roomId = .ok next ∧
      DeadlineLoop shuffler now startedAt manager (visited ++ [roomId]) next.1 next.2 := by
  have same : current.rooms.lookup roomId = manager.rooms.lookup roomId :=
    loop.others roomId fun member => new (List.mem_filter.mp member).1
  have overdue : current.overdue now roomId = manager.overdue now roomId := by
    simp only [RoomManager.overdue, same]
  obtain ⟨early, done⟩ | ⟨late, room, round, state, action, next, done, acted⟩ :=
    timeoutVisit_cases loop.sound now startedAt actions roomId
  · exact ⟨_, done, loop.skip (overdue ▸ early)⟩
  · refine ⟨_, done, loop.act new (overdue ▸ late) acted.sound ?_ ?_⟩
    · obtain ⟨found, started, moved, rfl, _, rooms⟩ := acted
      exact ⟨room, round, _, state, same ▸ found, started, moved, rfl, rfl, rfl, rfl,
        (rooms roomId).trans (if_pos rfl)⟩
    · exact fun other differ => (acted.rooms other).trans (if_neg differ)

theorem timeoutExpired_deadlines (shuffler : Shuffler ρ) (holds : ManagerInv manager)
    (order : VisitOrder RoomId) (now : Time) (startedAt : RoomId → Time) :
    ∃ actions next, manager.timeoutExpired shuffler order now startedAt = .ok (actions, next) ∧
      DeadlineLoop shuffler now startedAt manager (order.visit manager.rooms.keys) actions next := by
  obtain ⟨⟨actions, next⟩, ran, loop⟩ := ExceptLoop.foldlM_spec
    (fun visited state => DeadlineLoop shuffler now startedAt manager visited state.1 state.2)
    (order.visit manager.rooms.keys) ([], manager) ⟨holds, .nil, fun _ _ => rfl⟩
    fun visited roomId rest state split loop =>
      timeoutVisit_deadlines (ExceptLoop.notMem_visited (order.nodup _) split) loop
  exact ⟨actions, next, ran, loop⟩

end Loop

/-! ## The latest accepted action -/

/-- The clock reading of the call, if it was accepted in the room: a match that let its
    player in, an accepted call, play or pass of a player of the room, or a timer that
    reports a timeout of its players. -/
def RoomCall.acceptedIn (call : RoomCall ρ) (roomId : RoomId) : Option Time :=
  match call.op, call.answer with
  | .matchPlayer _ now player, .matched result =>
    if call.before.playerRooms.lookup player = none ∧ result.roomId = roomId then some now else none
  | .callLandlord _ now player _, .called (some result) =>
    if result.accepted ∧ call.before.playerRooms.lookup player = some roomId then some now else none
  | .playCards now _ player _, .played (some result)
  | .pass now player, .passed (some result) =>
    if result.accepted ∧ call.before.playerRooms.lookup player = some roomId then some now else none
  | .timeoutExpired _ now _, .timeouts actions =>
    if ∃ action ∈ actions, ∃ room ∈ call.before.rooms.lookup roomId, action.playerIds = room.playerIds
    then some now else none
  | _, _ => none

/-- When an action was last accepted in the room. -/
def lastAccepted (trace : List (RoomCall ρ)) (roomId : RoomId) : Option Time :=
  (trace.filterMap fun call => call.acceptedIn roomId).getLast?

theorem lastAccepted_snoc (trace : List (RoomCall ρ)) (call : RoomCall ρ) (roomId : RoomId) :
    lastAccepted (trace ++ [call]) roomId =
      (call.acceptedIn roomId).or (lastAccepted trace roomId) := by
  rw [lastAccepted, List.filterMap_append, List.getLast?_append]
  cases accepted : call.acceptedIn roomId <;> simp [accepted, lastAccepted]

/-- What a call does to the clock of each room: an accepted action sets it and the deadline
    after it, and the others leave the room as it was. -/
def Refreshes (call : RoomCall ρ) (after : RoomManager ρ) : Prop :=
  ∀ roomId room, after.rooms.lookup roomId = some room →
    (call.acceptedIn roomId = some room.lastActivity ∧ room.Timely) ∨
      (call.acceptedIn roomId = none ∧ call.before.rooms.lookup roomId = some room)

section Calls

variable {manager next : RoomManager ρ}

theorem refreshes_of_same {call : RoomCall ρ} (nowhere : ∀ roomId, call.acceptedIn roomId = none)
    (same : ∀ roomId room, next.rooms.lookup roomId = some room →
      call.before.rooms.lookup roomId = some room) : Refreshes call next :=
  fun roomId room found => .inr ⟨nowhere roomId, same roomId room found⟩

/-- The room after a call of a player, where the round goes on. -/
theorem ActedAs.refreshes {roundNow now : Time} {player : PlayerId} {op : Nat → RoundOp}
    {acted : RoomManager.Acted} {room : Room} {round : GameRound} {state : RoundState ρ}
    (spec : ActedAs shuffler manager roundNow now player op acted next room round state)
    (unsettled : state.round.phase ≠ .settled) {call : RoomCall ρ} (before : call.before = manager)
    (accepts : ∀ roomId, call.acceptedIn roomId =
      if acted.accepted = true ∧ manager.playerRooms.lookup player = some roomId then some now
      else none) : Refreshes call next := by
  intro roomId after found
  rw [spec.after, RoomManager.putRoom, UnorderedMap.find_insert] at found
  rw [accepts, spec.indexed, before]
  split at found
  · next same =>
    cases found
    subst same
    cases accepted : acted.accepted with
    | true =>
      obtain ⟨activity, timely⟩ := keep_timely room now unsettled
      rw [spec.kept, accepted, activity]
      exact .inl ⟨by simp, timely⟩
    | false =>
      -- a refused call leaves the round, so the room is what it was
      have round : state.round = round := by
        obtain ⟨yes, _⟩ | ⟨_, same⟩ := exec_cases spec.done
        · rw [accepted] at yes
          cases yes
        · rw [same]
      refine .inr ⟨by simp, ?_⟩
      rw [spec.found, spec.kept, accepted, round]
      simp [Room.keep, ← spec.started]
  · next differ =>
    exact .inr ⟨if_neg fun both => differ (Option.some.inj both.2).symm, found⟩

theorem matchPlayer_refreshes {order : VisitOrder RoomId} {now : Time} {player : PlayerId}
    {result : MatchResult} (holds : ManagerInv manager)
    (done : manager.matchPlayer shuffler order now player = .ok (result, next)) :
    Refreshes ⟨.matchPlayer order now player, manager, .matched result⟩ next := by
  unfold RoomManager.matchPlayer at done
  obtain ⟨roomId, room, found, present, member⟩ | ⟨found, absent⟩ :=
    findPlayer_spec holds order player
  · simp only [found] at done
    cases done
    have seated : manager.playerRooms.lookup player = some roomId :=
      (holds.index player roomId).mpr ⟨room, present, member⟩
    exact refreshes_of_same (fun other => by simp [RoomCall.acceptedIn, seated]) fun _ _ same => same
  · obtain ⟨roomId, room, opened⟩ := openWaitingRoom_spec holds now
    have present : (manager.openWaitingRoom now).rooms.lookup roomId = some room := by
      rw [opened.rooms, UnorderedMap.find_insert, if_pos rfl]
    simp only [found, RoomManager.waitingRoom, opened.waiting, RoomManager.roomAt, present, bind,
      Except.bind] at done
    have own := opened.waits.id
    -- the player's room is the one written, whether the round starts or not
    have written : ∀ joined : Room, joined.lastActivity = now → joined.Timely → result.roomId = roomId →
        (∀ other, next.rooms.lookup other =
          if other = roomId then some joined else manager.rooms.lookup other) →
        Refreshes ⟨.matchPlayer order now player, manager, .matched result⟩ next := by
      intro joined activity timely is rooms other after found
      rw [rooms] at found
      split at found
      · next same =>
        cases found
        exact .inl ⟨by simp [RoomCall.acceptedIn, absent, is, same, activity], timely⟩
      · next differ =>
        exact .inr ⟨by simp [RoomCall.acceptedIn, is, Ne.symm differ], found⟩
    split at done
    · next three =>
      have players : Room.threePlayers { room with
          playerIds := room.playerIds ++ [player], lastActivity := now } =
          .ok (room.playerIds ++ [player]) := threePlayers_ok three
      simp only [players] at done
      cases done
      let round := (GameRound.start shuffler {} (manager.openWaitingRoom now).random).1
      let joined : Room :=
        { room with playerIds := room.playerIds ++ [player], lastActivity := now, round := some round }
      refine written (joined.refreshDeadline now) (by simp [joined]) ?_ own fun other => ?_
      · intro same started
        rw [refreshDeadline_round] at started
        cases started
        rw [refreshDeadline_lastActivity]
        exact refreshDeadline_deadline rfl (by simp [round, GameRound.start])
      · rw [RoomManager.putRoom, opened.rooms]
        simp only [UnorderedMap.find_insert]
        split <;> rfl
    · cases done
      refine written { room with playerIds := room.playerIds ++ [player], lastActivity := now } rfl ?_ own
        fun other => ?_
      · intro round started
        have idle : room.round = some round := started
        rw [opened.waits.idle] at idle
        cases idle
      · rw [RoomManager.putRoom, opened.rooms]
        simp only [UnorderedMap.find_insert]
        split <;> rfl

theorem callLandlord_refreshes {startedAt now : Time} {player : PlayerId} {called : Bool}
    {result : Option CallLandlordResult} (holds : ManagerInv manager)
    (done : manager.callLandlord shuffler startedAt now player called = .ok (result, next)) :
    Refreshes ⟨.callLandlord startedAt now player called, manager, .called result⟩ next := by
  unfold RoomManager.callLandlord at done
  obtain act | ⟨acted, after, room, round, state, act, spec⟩ :=
    act_spec shuffler holds startedAt now player (.callLandlord · called)
  · rw [act] at done
    cases done
    exact refreshes_of_same (fun _ => rfl) fun _ _ same => same
  · rw [act] at done
    cases done
    have unsettled := unsettled_of_op spec.done (spec.unsettled_before holds) (by simp [RoundOp.resolve])
    exact spec.refreshes unsettled rfl fun _ => rfl

theorem pass_refreshes {now : Time} {player : PlayerId} {result : Option PlayCardsResult}
    (holds : ManagerInv manager)
    (done : manager.pass shuffler now player = .ok (result, next)) :
    Refreshes ⟨.pass now player, manager, .passed result⟩ next := by
  unfold RoomManager.pass at done
  obtain act | ⟨acted, after, room, round, state, act, spec⟩ :=
    act_spec shuffler holds now now player .pass
  · rw [act] at done
    cases done
    exact refreshes_of_same (fun _ => rfl) fun _ _ same => same
  · rw [act] at done
    cases done
    have unsettled := unsettled_of_op spec.done (spec.unsettled_before holds) (by simp [RoundOp.resolve])
    exact spec.refreshes unsettled rfl fun _ => rfl

theorem playCards_refreshes {now endedAt : Time} {player : PlayerId} {cards : List Card}
    {result : Option PlayCardsResult} (holds : ManagerInv manager)
    (done : manager.playCards shuffler now endedAt player cards = .ok (result, next)) :
    Refreshes ⟨.playCards now endedAt player cards, manager, .played result⟩ next := by
  unfold RoomManager.playCards at done
  obtain act | ⟨acted, after, room, round, state, act, spec⟩ :=
    act_spec shuffler holds now now player (.playCards · cards)
  · rw [act] at done
    cases done
    exact refreshes_of_same (fun _ => rfl) fun _ _ same => same
  · rw [act] at done
    simp only [bind, Except.bind, spec.moved] at done
    split at done
    · next finished =>
      -- the room is gone, the others are as they were
      cases done
      rw [spec.removed holds]
      intro roomId other found
      have kept := (find_removeRoom manager acted.roomId room roomId).symm.trans found
      split at kept
      · cases kept
      · next differ =>
        refine .inr ⟨if_neg fun both => differ ?_, kept⟩
        exact Option.some.inj (both.2.symm.trans spec.indexed)
    · next going =>
      cases done
      have unsettled : state.round.phase ≠ .settled := by
        intro settled
        obtain ⟨yes, _⟩ | ⟨_, same⟩ := exec_cases spec.done
        · exact going (by simp [settled, yes])
        · rw [same] at settled
          exact spec.unsettled_before holds settled
      exact spec.refreshes unsettled rfl fun _ => rfl

theorem timeoutExpired_refreshes {order : VisitOrder RoomId} {now : Time} {startedAt : RoomId → Time}
    {actions : List TimeoutAction} (holds : ManagerInv manager)
    (done : manager.timeoutExpired shuffler order now startedAt = .ok (actions, next)) :
    Refreshes ⟨.timeoutExpired order now startedAt, manager, .timeouts actions⟩ next := by
  obtain ⟨_, _, ran, loop⟩ := timeoutExpired_deadlines shuffler holds order now startedAt
  rw [done] at ran
  cases ran
  intro roomId after found
  by_cases late : roomId ∈ (order.visit manager.rooms.keys).filter (manager.overdue now)
  · obtain ⟨action, member, room, round, random, state, present, started, _, players, _, _, _, left⟩ :=
      exists_of_forall₂ loop.acted roomId late
    rw [found] at left
    split at left
    · cases left
    · next unsettled =>
      obtain ⟨activity, timely⟩ := keep_timely room now unsettled
      cases left
      rw [activity]
      exact .inl ⟨if_pos ⟨action, member, room, present, players⟩, timely⟩
  · have same := (loop.others roomId late).symm.trans found
    refine .inr ⟨if_neg ?_, same⟩
    rintro ⟨action, member, room, present, players⟩
    obtain rfl : room = after := Option.some.inj (present.symm.trans same)
    -- the action is that of another room, with players of its own
    obtain ⟨other, otherLate, otherRoom, round, random, state, otherFound, started, _, otherPlayers, _⟩ :=
      exists_of_forall₂ loop.acted.flip action member
    have three := ((holds.room other otherRoom otherFound).shape.playing started).1
    obtain ⟨player, inside⟩ := List.exists_mem_of_length_pos (by omega : 0 < otherRoom.playerIds.length)
    have together : player ∈ room.playerIds := by rwa [← players, otherPlayers]
    exact late (holds.unique otherFound inside present together ▸ otherLate)

theorem removed_found {removed gone : Room} {removedId roomId : RoomId} {room : Room}
    (found : ((manager.stopWaiting gone).removeRoom removedId removed).rooms.lookup roomId = some room) :
    manager.rooms.lookup roomId = some room := by
  rw [find_removeRoom, stopWaiting_eq] at found
  split at found
  · cases found
  · exact found

/-- The clean-ups only remove rooms. -/
theorem cleanupIdle_rooms (order : VisitOrder RoomId) (now : Time) {roomId : RoomId} {room : Room}
    (found : (manager.cleanupIdle order now).rooms.lookup roomId = some room) :
    manager.rooms.lookup roomId = some room := by
  revert found
  refine ExceptLoop.foldl_spec (fun _ (current : RoomManager ρ) =>
    current.rooms.lookup roomId = some room → manager.rooms.lookup roomId = some room) _ manager id ?_
  intro visited other rest current split kept found
  refine kept ?_
  unfold RoomManager.closeIdle at found
  split at found
  · exact found
  · split at found
    · exact found
    · exact removed_found found

theorem cleanupExpired_rooms (order : VisitOrder PlayerId) (now : Time) {roomId : RoomId} {room : Room}
    (found : (manager.cleanupExpired order now).2.rooms.lookup roomId = some room) :
    manager.rooms.lookup roomId = some room := by
  revert found
  refine ExceptLoop.foldl_spec (fun _ (state : List (List SettlementEntry) × RoomManager ρ) =>
    state.2.rooms.lookup roomId = some room → manager.rooms.lookup roomId = some room) _
    ([], manager) id ?_
  rintro visited player rest ⟨rooms, current⟩ split kept found
  refine kept ?_
  simp only [RoomManager.closeExpired] at found
  split at found
  · exact found
  · split at found
    · exact found
    · exact removed_found found

theorem refreshes_step {call : RoomCall ρ} (holds : ManagerInv manager)
    (step : RoomStep shuffler manager call next) : Refreshes call next := by
  obtain ⟨op, before, answer⟩ := call
  obtain ⟨rfl, done⟩ := step
  cases op with
  | matchPlayer order now player =>
    obtain ⟨⟨result, after⟩, done, same⟩ := ExceptLoop.bind_ok.mp done
    cases same
    exact matchPlayer_refreshes holds done
  | callLandlord startedAt now player called =>
    obtain ⟨⟨result, after⟩, done, same⟩ := ExceptLoop.bind_ok.mp done
    cases same
    exact callLandlord_refreshes holds done
  | playCards now endedAt player cards =>
    obtain ⟨⟨result, after⟩, done, same⟩ := ExceptLoop.bind_ok.mp done
    cases same
    exact playCards_refreshes holds done
  | pass now player =>
    obtain ⟨⟨result, after⟩, done, same⟩ := ExceptLoop.bind_ok.mp done
    cases same
    exact pass_refreshes holds done
  | reconnectInfo player | roomState now player =>
    obtain ⟨result, done, same⟩ := ExceptLoop.bind_ok.mp done
    cases same
    exact refreshes_of_same (fun _ => rfl) fun _ _ same => same
  | markOnline player =>
    cases done
    exact refreshes_of_same (fun _ => rfl) fun _ _ same => same
  | markOffline player now =>
    cases done
    refine refreshes_of_same (fun _ => rfl) fun roomId room found => ?_
    unfold RoomManager.markOffline at found
    split at found <;> exact found
  | timeoutExpired order now startedAt =>
    obtain ⟨⟨actions, after⟩, done, same⟩ := ExceptLoop.bind_ok.mp done
    cases same
    exact timeoutExpired_refreshes holds done
  | cleanupIdle order now =>
    cases done
    exact refreshes_of_same (fun _ => rfl) fun _ _ => cleanupIdle_rooms order now
  | cleanupExpired order now =>
    dsimp only [RoomOp.exec] at done
    cases done
    exact refreshes_of_same (fun _ => rfl) fun _ _ => cleanupExpired_rooms order now

end Calls

/-! ## Runs -/

/-- Each room's activity is the latest accepted action in it, and its deadline follows. -/
structure Clocked (trace : List (RoomCall ρ)) (manager : RoomManager ρ) : Prop where
  sound : ManagerInv manager
  clocks : ∀ roomId room, manager.rooms.lookup roomId = some room →
    lastAccepted trace roomId = some room.lastActivity ∧ room.Timely

theorem clocked_step {trace : List (RoomCall ρ)} {before after : RoomManager ρ} {call : RoomCall ρ}
    (holds : Clocked trace before) (step : RoomStep shuffler before call after) :
    Clocked (trace ++ [call]) after := by
  refine ⟨managerInv_step holds.sound step, ?_⟩
  intro roomId room found
  rw [lastAccepted_snoc]
  obtain ⟨accepted, timely⟩ | ⟨nowhere, same⟩ := refreshes_step holds.sound step roomId room found
  · rw [accepted]
    exact ⟨rfl, timely⟩
  · rw [nowhere, Option.none_or]
    exact holds.clocks roomId room (step.1 ▸ same)

theorem clocked_run {random : ρ} {trace : List (RoomCall ρ)} {finish : RoomManager ρ}
    (run : Transition.Steps (RoomStep shuffler) { random } trace finish) : Clocked trace finish :=
  run.history Clocked ⟨managerInv_empty random, by simp⟩
    fun _ _ _ _ _ holds step => clocked_step holds step

theorem ManagerInv.phase {manager : RoomManager ρ} {roomId : RoomId} {room : Room} {round : GameRound}
    (holds : ManagerInv manager) (found : manager.rooms.lookup roomId = some room)
    (started : room.round = some round) :
    round.phase = .callLandlord ∨ round.phase = .playCards := by
  obtain ⟨_, unsettled, log, sound⟩ := (holds.room _ _ found).shape.playing started
  cases phase : round.phase with
  | waitingPlayers => simp [RoundInv, phase] at sound
  | callLandlord => exact .inl rfl
  | playCards => exact .inr rfl
  | settled => exact absurd phase unsettled

/-- The turn of the room is over: as long as it may take, or longer, nothing was accepted. -/
def TurnOver (trace : List (RoomCall ρ)) (manager : RoomManager ρ) (now : Time) (roomId : RoomId) :
    Prop :=
  ∃ room round last, manager.rooms.lookup roomId = some room ∧ room.round = some round ∧
    lastAccepted trace roomId = some last ∧
    (round.phase = .callLandlord ∧ now - last ≥ seconds 10 ∨
      round.phase = .playCards ∧ now - last ≥ seconds 15)

theorem Clocked.overdue_iff {trace : List (RoomCall ρ)} {manager : RoomManager ρ}
    (holds : Clocked trace manager) (now : Time) (roomId : RoomId) :
    manager.overdue now roomId = true ↔ TurnOver trace manager now roomId := by
  unfold RoomManager.overdue
  cases found : manager.rooms.lookup roomId with
  | none => simp [TurnOver, found]
  | some room =>
    obtain ⟨last, timely⟩ := holds.clocks roomId room found
    simp only [Bool.and_eq_true, decide_eq_true_eq, TurnOver, found, last, Option.some.injEq]
    constructor
    · rintro ⟨isSome, late⟩
      obtain ⟨round, started⟩ := Option.isSome_iff_exists.mp isSome
      rw [timely round started] at late
      refine ⟨room, round, _, rfl, started, rfl, ?_⟩
      obtain calling | playing := holds.sound.phase found started
      · rw [calling] at late
        exact .inl ⟨calling, le_sub_iff_add_le'.mpr late⟩
      · rw [playing] at late
        exact .inr ⟨playing, le_sub_iff_add_le'.mpr late⟩
    · rintro ⟨_, round, _, rfl, started, rfl, expired⟩
      refine ⟨by simp [started], ?_⟩
      rw [timely round started]
      obtain ⟨calling, late⟩ | ⟨playing, late⟩ := expired
      · rw [calling]
        exact le_sub_iff_add_le'.mp late
      · rw [playing]
        exact le_sub_iff_add_le'.mp late

/-- In every state reached, the deadline of a round is ten seconds after the latest accepted
    action in the room while the landlord is called, and fifteen in play.  So the timer acts
    in the rooms where that long has passed and in no other, once in each. -/
theorem full_turns (shuffler : Shuffler ρ) (random : ρ) (ops : List RoomOp) :
    ∃ trace finish, RoomManager.run shuffler { random } ops = .ok (trace, finish) ∧
      (∀ roomId room round, finish.rooms.lookup roomId = some room → room.round = some round →
        lastAccepted trace roomId = some room.lastActivity ∧
        (round.phase = .callLandlord ∧ room.actionDeadline = room.lastActivity + seconds 10 ∨
          round.phase = .playCards ∧ room.actionDeadline = room.lastActivity + seconds 15)) ∧
      ∀ (order : VisitOrder RoomId) (now : Time) (startedAt : RoomId → Time),
        ∃ actions next, ∃ overdue : List RoomId,
          finish.timeoutExpired shuffler order now startedAt = .ok (actions, next) ∧
          overdue.Nodup ∧ (∀ roomId, roomId ∈ overdue ↔ TurnOver trace finish now roomId) ∧
          List.Forall₂ (TimedOut shuffler now startedAt finish next) overdue actions ∧
          ∀ roomId, roomId ∉ overdue →
            next.rooms.lookup roomId = finish.rooms.lookup roomId := by
  obtain ⟨trace, finish, ran, _⟩ := run_sound shuffler (managerInv_empty random) ops
  have holds := clocked_run (RoomManager.run_steps ran)
  refine ⟨trace, finish, ran, ?_, ?_⟩
  · intro roomId room round found started
    obtain ⟨last, timely⟩ := holds.clocks roomId room found
    refine ⟨last, ?_⟩
    have deadline := timely round started
    obtain calling | playing := holds.sound.phase found started
    · exact .inl ⟨calling, by simpa [turnLimit, calling] using deadline⟩
    · exact .inr ⟨playing, by simpa [turnLimit, playing] using deadline⟩
  · intro order now startedAt
    obtain ⟨actions, next, done, loop⟩ :=
      timeoutExpired_deadlines shuffler holds.sound order now startedAt
    refine ⟨actions, next, _, done, (order.nodup _).filter _, ?_, loop.acted, loop.others⟩
    intro roomId
    rw [List.mem_filter, ← holds.overdue_iff, order.mem_visit]
    constructor
    · exact And.right
    · intro late
      refine ⟨?_, late⟩
      -- an overdue room is one of the rooms
      unfold RoomManager.overdue at late
      split at late
      · cases late
      · next found => exact UnorderedMap.mem_keys_of_find found

end Doudizhu.Gateway
