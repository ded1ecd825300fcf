import Doudizhu.Gateway.Announcements
import Doudizhu.Gateway.SessionMoves

/-! # Rooms and what is told of them

Every operation that moves a round or ends a room sets off the calls that tell the players
so, and no other operation sets off any: the stories of the rooms go on by what is told.
-/

namespace Doudizhu.Gateway

open Game Rules

variable {ρ : Type} {shuffler : Shuffler ρ} {gone : RoomId → PlayerId → Prop}

/-! ## Letters -/

/-- What a call hands to the notifier, apart from room states. -/
def Task.letters : Task → List (PlayerId × ServerMessage)
  | .notify _ (.roomState _) => []
  | .notify player message => [(player, message)]
  | _ => []

/-- What is left to be handed over. -/
def pending (agenda : List Task) : List (PlayerId × ServerMessage) := agenda.flatMap Task.letters

@[simp] theorem pending_nil : pending [] = [] := rfl

@[simp] theorem pending_cons (task : Task) (tasks : List Task) :
    pending (task :: tasks) = task.letters ++ pending tasks := rfl

@[simp] theorem pending_append (first second : List Task) :
    pending (first ++ second) = pending first ++ pending second := List.flatMap_append

/-- A message that is no room state. -/
def ServerMessage.Lasting (message : ServerMessage) : Prop := ∀ state, message ≠ .roomState state

theorem letters_notify {message : ServerMessage} (lasting : message.Lasting) (player : PlayerId) :
    (Task.notify player message).letters = [(player, message)] := by
  cases message with
  | roomState state => exact absurd rfl (lasting state)
  | _ => rfl

theorem pending_tellAll {message : ServerMessage} (lasting : message.Lasting) (players : List PlayerId) :
    pending (GatewayProcess.tellAll players message) = players.map fun player => (player, message) := by
  induction players with
  | nil => rfl
  | cons player players inductionHypothesis =>
    show (Task.notify player message).letters ++ ([] ++ pending (GatewayProcess.tellAll players message)) = _
    rw [letters_notify lasting, inductionHypothesis]
    rfl

theorem pending_startTasks (roomId : RoomId) (players : List PlayerId) (hands : Hands) :
    pending (GatewayProcess.startTasks ⟨players, hands, 0⟩) =
      GameEvent.letters (.begun roomId players hands) := by
  simp only [GatewayProcess.startTasks, GameEvent.letters, pending, List.flatMap_assoc]
  induction players.zipIdx with
  | nil => rfl
  | cons place places inductionHypothesis =>
    rw [List.flatMap_cons, inductionHypothesis]
    rfl

theorem pending_settleTasks (room : Room) (roomId : RoomId) (landlord : Fin 3) (won : Bool) (duration : Int) :
    pending ((room.settlementEntries landlord won duration).flatMap GatewayProcess.settleTasks) =
      GameEvent.letters (.settled roomId room.playerIds landlord won) := by
  simp only [Room.settlementEntries, GameEvent.letters, pending, List.flatMap_assoc, List.flatMap_map]
  induction room.playerIds.zipIdx with
  | nil => rfl
  | cons place places inductionHypothesis =>
    rw [List.flatMap_cons, inductionHypothesis, List.map_cons]
    obtain ⟨player, seat⟩ := place
    by_cases own : seat = landlord <;> cases won <;>
      simp [GatewayProcess.settleTasks, Task.letters, coinChange, own]

/-! ## Chronicles go on -/

section Change

variable {log more : List GameEvent} {before after : RoomManager ρ} {roomId : RoomId}

/-- One room changes, and what is told is about that room. -/
theorem Chronicled.change (chronicled : Chronicled gone log before)
    (own : ∀ event ∈ more, event.roomId = roomId)
    (others : ∀ other, other ≠ roomId → after.rooms.lookup other = before.rooms.lookup other)
    (grows : before.nextRoomId ≤ after.nextRoomId) (used : roomId < after.nextRoomId)
    (goes : Story gone roomId (Chronicle.about GameEvent.roomId log roomId) (before.rooms.lookup roomId) →
      Story gone roomId (Chronicle.about GameEvent.roomId log roomId ++ more) (after.rooms.lookup roomId)) :
    Chronicled gone (log ++ more) after where
  tells := chronicled.tells.step own others goes
  fresh other late := by
    have differ : other ≠ roomId := by
      rintro rfl
      exact absurd used (not_lt.mpr late)
    rw [Chronicle.about_other own differ]
    exact chronicled.fresh other (grows.trans late)

/-- The same where nothing is told. -/
theorem Chronicled.still (chronicled : Chronicled gone log before)
    (others : ∀ other, other ≠ roomId → after.rooms.lookup other = before.rooms.lookup other)
    (grows : before.nextRoomId ≤ after.nextRoomId) (used : roomId < after.nextRoomId)
    (goes : Story gone roomId (Chronicle.about GameEvent.roomId log roomId) (before.rooms.lookup roomId) →
      Story gone roomId (Chronicle.about GameEvent.roomId log roomId) (after.rooms.lookup roomId)) :
    Chronicled gone log after := by
  have changed := @Chronicled.change ρ gone log [] before after roomId chronicled (by simp) others grows used
  simp only [List.append_nil] at changed
  exact changed goes

/-- Rooms and their numbers are all that counts. -/
theorem Chronicled.same (chronicled : Chronicled gone log before) (rooms : after.rooms = before.rooms)
    (next : after.nextRoomId = before.nextRoomId) : Chronicled gone log after where
  tells := by
    rw [rooms]
    exact chronicled.tells
  fresh := by
    rw [next]
    exact chronicled.fresh

/-- More players may be gone. -/
theorem Chronicled.mono {moreGone : RoomId → PlayerId → Prop} (chronicled : Chronicled gone log before)
    (grows : ∀ roomId player, gone roomId player → moreGone roomId player) : Chronicled moreGone log before where
  tells roomId := (chronicled.tells roomId).mono (grows roomId)
  fresh := chronicled.fresh

theorem chronicled_empty (random : ρ) : Chronicled gone [] ({ random } : RoomManager ρ) where
  tells roomId := .silent (by simp)
  fresh _ _ := rfl

end Change

/-- The calls tell what has happened to the rooms. -/
def Retells (gone : RoomId → PlayerId → Prop) (log : List GameEvent) (tasks : List Task)
    (after : RoomManager ρ) : Prop :=
  ∃ more, Chronicled gone (log ++ more) after ∧ pending tasks = more.flatMap GameEvent.letters

theorem Chronicled.retells {log : List GameEvent} {tasks : List Task} {after : RoomManager ρ}
    (chronicled : Chronicled gone log after) (nothing : pending tasks = []) : Retells gone log tasks after :=
  ⟨[], by rwa [List.append_nil], nothing⟩

section Removed

variable (manager : RoomManager ρ) (roomId : RoomId) (room : Room)

theorem removed_own : (manager.removeRoom roomId room).rooms.lookup roomId = none :=
  (find_removeRoom manager roomId room roomId).trans (if_pos rfl)

theorem removed_others (other : RoomId) (differ : other ≠ roomId) :
    (manager.removeRoom roomId room).rooms.lookup other = manager.rooms.lookup other :=
  (find_removeRoom manager roomId room other).trans (if_neg differ)

end Removed

/-! ## Calls of players -/

section Acted

variable {log : List GameEvent} {manager next : RoomManager ρ} {roundNow now : Time} {player : PlayerId}
  {op : Nat → RoundOp} {acted : RoomManager.Acted} {room : Room} {round : GameRound}
  {state : Game.RoundState ρ}

/-- The move that was made, with its announcement. -/
abbrev Announced (before after : GameRound) (message : ServerMessage) : Prop :=
  ∀ table, Represents before table → ∃ next, Represents after next ∧ Told table message next

/-- What becomes of the room whose round was called. -/
theorem ActedAs.place (spec : ActedAs shuffler manager roundNow now player op acted next room round state) :
    acted.room.playerIds = room.playerIds ∧ acted.room.round = some state.round ∧
      next.rooms.lookup acted.roomId = some acted.room ∧
      ∀ other, other ≠ acted.roomId → next.rooms.lookup other = manager.rooms.lookup other := by
  refine ⟨by simp [spec.kept], by simp [spec.kept], ?_, ?_⟩
  · rw [spec.after]
    simp [RoomManager.putRoom]
  · intro other differ
    rw [spec.after]
    simp [RoomManager.putRoom, differ]

theorem ActedAs.grows (spec : ActedAs shuffler manager roundNow now player op acted next room round state) :
    next.nextRoomId = manager.nextRoomId := by
  rw [spec.after]
  rfl

/-- A refused call is not told. -/
theorem ActedAs.refused (holds : ManagerInv manager) (chronicled : Chronicled gone log manager)
    (spec : ActedAs shuffler manager roundNow now player op acted next room round state)
    (refused : acted.accepted = false) : Chronicled gone log next := by
  obtain ⟨players, played, placed, others⟩ := spec.place
  have done := spec.done
  rw [refused] at done
  have unmoved : state.round = round := by
    obtain ⟨accepted, _⟩ | ⟨_, same⟩ := exec_cases done
    · cases accepted
    · rw [same]
  refine chronicled.still others spec.grows.ge (spec.grows ▸ holds.fresh _ _ spec.found) ?_
  rw [spec.found, placed]
  exact fun story => story.kept players (by rw [played, unmoved, spec.started])

/-- An accepted one is told to the players of the room. -/
theorem ActedAs.told (holds : ManagerInv manager) (chronicled : Chronicled gone log manager)
    (spec : ActedAs shuffler manager roundNow now player op acted next room round state)
    {message : ServerMessage} (announced : Announced round state.round message) :
    Chronicled gone (log ++ [.told acted.roomId room.playerIds message]) next := by
  obtain ⟨players, played, placed, others⟩ := spec.place
  refine chronicled.change (by simp [GameEvent.roomId]) others spec.grows.ge
    (spec.grows ▸ holds.fresh _ _ spec.found) ?_
  rw [spec.found, placed]
  exact fun story => story.told spec.started players played announced

/-- The last one is told, and then how the game is settled. -/
theorem ActedAs.won (holds : ManagerInv manager) (chronicled : Chronicled gone log manager)
    (spec : ActedAs shuffler manager roundNow now player op acted next room round state)
    (settled : state.round.phase = .settled) {message : ServerMessage} (lasting : message.Lasting)
    (announced : Announced round state.round message) (endedAt : Time) :
    Retells gone log
      (GatewayProcess.tellAll acted.players message ++
        (acted.room.settlements acted.round endedAt).flatMap GatewayProcess.settleTasks)
      (next.removeRoom acted.room.id acted.room) := by
  obtain ⟨landlord, winner, found, owned, won, _⟩ : ∃ landlord winner : Fin 3,
      round.landlordSeat = some landlord.val ∧ state.round.landlordSeat = some landlord.val ∧
      state.round.winnerSeat = some winner.val ∧
      ∀ seat, state.round.deal.hands seat = [] ↔ seat = winner := by
    obtain ⟨_, unsettled, deals, ready⟩ := (holds.room _ _ spec.found).shape.playing spec.started
    have before : RoundInv deals (Game.RoundState.mk round manager.random).round := ready
    exact settling_spec before unsettled spec.done settled
  rw [spec.removed holds, spec.moved, spec.entries, spec.players]
  refine ⟨[.told acted.roomId room.playerIds message,
    .settled acted.roomId room.playerIds landlord (landlord.val == winner.val)], ?_, ?_⟩
  · refine chronicled.change (by simp [GameEvent.roomId]) (removed_others manager acted.roomId room) le_rfl
      (holds.fresh _ _ spec.found) ?_
    have gone := removed_own manager acted.roomId room
    rw [spec.found]
    intro story
    obtain ⟨own, same, later⟩ := story.won spec.started settled owned won announced
    obtain rfl := Fin.ext same
    exact gone ▸ later
  · rw [pending_append, pending_tellAll lasting, Room.settlements, owned, won,
      pending_settleTasks room acted.roomId]
    simp [GameEvent.letters]

end Acted

/-! ## Matches -/

/-- What a seat in the room that is open does to the rooms. -/
structure Seated (manager : RoomManager ρ) (roomId : RoomId) (joined : Room) (next : RoomManager ρ) :
    Prop where
  silent : ∀ (gone : RoomId → PlayerId → Prop) (log : List GameEvent), Chronicled gone log manager →
    Chronicle.about GameEvent.roomId log roomId = []
  own : next.rooms.lookup roomId = some joined
  others : ∀ other, other ≠ roomId → next.rooms.lookup other = manager.rooms.lookup other
  grows : manager.nextRoomId ≤ next.nextRoomId
  used : roomId < next.nextRoomId

/-- Nothing has been told of the room that is open. -/
theorem Opened.silent {manager base : RoomManager ρ} {roomId : RoomId} {room : Room}
    (opened : Opened manager base roomId room) {log : List GameEvent}
    (chronicled : Chronicled gone log manager) : Chronicle.about GameEvent.roomId log roomId = [] := by
  obtain found | ⟨_, unused⟩ := opened.place
  · have story : Story gone roomId (Chronicle.about GameEvent.roomId log roomId)
        (manager.rooms.lookup roomId) := chronicled.tells roomId
    rw [found] at story
    exact story.of_idle opened.waits.idle
  · exact chronicled.fresh roomId unused

theorem Opened.seated {manager base : RoomManager ρ} {roomId : RoomId} {room joined : Room}
    (opened : Opened manager base roomId room) {next : RoomManager ρ}
    (rooms : next.rooms = base.rooms.insert roomId joined) (numbers : next.nextRoomId = base.nextRoomId) :
    Seated manager roomId joined next where
  silent _ _ chronicled := opened.silent chronicled
  own := by simp [rooms]
  others other differ := by simp [rooms, opened.rooms, differ]
  grows := numbers ▸ opened.grows
  used := numbers ▸ opened.fresh

section Matches

variable {log : List GameEvent} {manager next : RoomManager ρ} {roomId : RoomId} {joined : Room}

/-- A seat is taken, and the game does not start yet. -/
theorem Seated.waits (seated : Seated manager roomId joined next) (chronicled : Chronicled gone log manager)
    (idle : joined.round = none) : Chronicled gone log next := by
  refine chronicled.still seated.others seated.grows seated.used fun _ => ?_
  rw [seated.silent gone log chronicled, seated.own]
  refine .silent ?_
  rintro _ ⟨⟩
  exact idle

/-- The third seat is taken, and each player is dealt a hand. -/
theorem Seated.begins (seated : Seated manager roomId joined next) (chronicled : Chronicled gone log manager)
    {players : List PlayerId} {random : ρ} (own : joined.playerIds = players) (three : players.length = 3)
    (started : joined.round = some (GameRound.start shuffler {} random).1) :
    Retells gone log (GatewayProcess.startTasks ⟨players, (Deck.deal shuffler random).1.hands, 0⟩) next := by
  refine ⟨[.begun roomId players (Deck.deal shuffler random).1.hands], ?_, ?_⟩
  · refine chronicled.change (by simp [GameEvent.roomId]) seated.others seated.grows seated.used fun _ => ?_
    rw [seated.silent gone log chronicled, seated.own]
    have opening : Opening roomId joined.playerIds (Deck.dealt shuffler random) []
        (Deck.deal shuffler random).1.hands
        [.begun roomId players (Deck.deal shuffler random).1.hands] :=
      ⟨own ▸ three, fun _ => rfl, by rw [own]; rfl⟩
    exact .playing opening .refl started (represents_start {} random)
  · rw [List.flatMap_singleton]
    exact pending_startTasks _ _ _

theorem matchPlayer_retells (holds : ManagerInv manager) (chronicled : Chronicled gone log manager)
    {order : VisitOrder RoomId} {now : Time} {player : PlayerId} {result : MatchResult}
    (done : manager.matchPlayer shuffler order now player = .ok (result, next)) :
    Retells gone log (match result.gameStart with
      | none => []
      | some start => GatewayProcess.startTasks start) next := by
  unfold RoomManager.matchPlayer at done
  obtain ⟨roomId, room, found, _⟩ | ⟨found, absent⟩ := findPlayer_spec holds order player
  · simp only [found] at done
    cases done
    exact chronicled.retells rfl
  · obtain ⟨roomId, room, opened⟩ := openWaitingRoom_spec holds now
    have present : (manager.openWaitingRoom now).rooms.lookup roomId = some room := by
      rw [opened.rooms, UnorderedMap.find_insert, if_pos rfl]
    simp only [found, RoomManager.waitingRoom, opened.waiting, RoomManager.roomAt, present, bind,
      Except.bind] at done
    split at done
    · next three =>
      have players : Room.threePlayers { room with
          playerIds := room.playerIds ++ [player], lastActivity := now } =
          .ok (room.playerIds ++ [player]) := threePlayers_ok three
      simp only [players] at done
      cases done
      refine @Seated.begins ρ shuffler gone log manager _ roomId ?joined (opened.seated ?rooms ?numbers)
        chronicled _ _ ?players three ?started
      case rooms | numbers => rfl
      case players => exact refreshDeadline_playerIds ..
      case started => exact refreshDeadline_round ..
    · cases done
      refine Chronicled.retells (@Seated.waits ρ gone log manager _ roomId
        { room with playerIds := room.playerIds ++ [player], lastActivity := now } ?_ chronicled
        opened.waits.idle) rfl
      exact opened.seated rfl rfl

end Matches

/-! ## The timer -/

theorem Retells.trans {log : List GameEvent} {first second : List Task} {middle after : RoomManager ρ}
    (retells : Retells gone log first middle)
    (later : ∀ log, Chronicled gone log middle → Retells gone log second after) :
    Retells gone log (first ++ second) after := by
  obtain ⟨more, chronicled, told⟩ := retells
  obtain ⟨rest, chronicled, toldLater⟩ := later _ chronicled
  rw [List.append_assoc] at chronicled
  exact ⟨more ++ rest, chronicled, by rw [pending_append, told, toldLater, List.flatMap_append]⟩

section Timer

variable {log : List GameEvent} {manager next : RoomManager ρ} {roomId : RoomId} {room : Room}
  {round : GameRound} {now : Time}

theorem timeoutRoom_retells (holds : ManagerInv manager)
    {startedAt : Time} {actions answer : List TimeoutAction}
    (found : manager.rooms.lookup roomId = some room) (started : room.round = some round)
    (done : RoomManager.timeoutRoom shuffler now startedAt actions manager roomId room round =
      .ok (answer, next)) :
    ∃ action, answer = actions ++ [action] ∧ ∀ log, Chronicled gone log manager →
      Retells gone log (GatewayProcess.timeoutTasks action) next := by
  obtain ⟨_, unsettled, deals, ready⟩ := (holds.room _ _ found).shape.playing started
  have before : RoundInv deals (Game.RoundState.mk round manager.random).round := ready
  obtain ⟨state, timed, returns⟩ := timeoutRoom_done shuffler holds now startedAt actions found started
  have announced : Announced round state.round
      (.timeoutAction round.currentSeat state.round.phase.value state.round.currentSeat) :=
    fun table represents => told_timeout before represents timed
  rw [returns] at done
  cases done
  refine ⟨_, rfl, fun log chronicled => ?_⟩
  have lasting : (ServerMessage.timeoutAction round.currentSeat state.round.phase.value
      state.round.currentSeat).Lasting := by simp [ServerMessage.Lasting]
  by_cases settled : state.round.phase = .settled
  · obtain ⟨landlord, winner, _, owned, won, _⟩ := settling_spec before unsettled timed settled
    simp only [settled, if_true, GatewayProcess.timeoutTasks]
    rw [settled] at announced lasting
    refine ⟨[.told roomId room.playerIds (.timeoutAction round.currentSeat GamePhase.settled.value
        state.round.currentSeat),
      .settled roomId room.playerIds landlord (landlord.val == winner.val)], ?_, ?_⟩
    · refine chronicled.change (by simp [GameEvent.roomId]) (removed_others manager roomId room) le_rfl
        (holds.fresh _ _ found) ?_
      have gone := removed_own manager roomId room
      rw [found]
      intro story
      obtain ⟨own, same, later⟩ := story.won started settled owned won announced
      obtain rfl := Fin.ext same
      exact gone ▸ later
    · rw [pending_append, pending_tellAll lasting, Room.settlements, owned, won,
        pending_settleTasks room roomId]
      simp [GameEvent.letters]
  · simp only [settled, if_false, GatewayProcess.timeoutTasks]
    refine ⟨[.told roomId room.playerIds (.timeoutAction round.currentSeat state.round.phase.value
      state.round.currentSeat)], ?_, ?_⟩
    · refine chronicled.change (by simp [GameEvent.roomId]) ?_ le_rfl (holds.fresh _ _ found) ?_
      · intro other differ
        simp [RoomManager.putRoom, differ]
      · have placed : (manager.putRoom roomId (room.keep state.round true now)).rooms.lookup roomId =
            some (room.keep state.round true now) := by simp [RoomManager.putRoom]
        rw [found]
        intro story
        exact placed ▸ story.told started (keep_playerIds ..) (keep_round ..) announced
    · rw [pending_append, pending_tellAll lasting]
      simp [GameEvent.letters]

theorem timeoutExpired_retells (holds : ManagerInv manager) (chronicled : Chronicled gone log manager)
    {order : VisitOrder RoomId} {startedAt : RoomId → Time} {actions : List TimeoutAction}
    (done : manager.timeoutExpired shuffler order now startedAt = .ok (actions, next)) :
    Retells gone log (actions.flatMap GatewayProcess.timeoutTasks) next := by
  suffices ManagerInv next ∧ Retells gone log (actions.flatMap GatewayProcess.timeoutTasks) next from this.2
  refine ExceptLoop.foldlM_kept (fun (state : List TimeoutAction × RoomManager ρ) =>
    ManagerInv state.2 ∧ Retells gone log (state.1.flatMap GatewayProcess.timeoutTasks) state.2) done
    ⟨holds, chronicled.retells rfl⟩ ?_
  intro ⟨before, current⟩ roomId ⟨after, later⟩ visited ⟨sound, told⟩
  unfold RoomManager.timeoutVisit at visited
  split at visited
  · cases visited
    exact ⟨sound, told⟩
  next room found =>
  split at visited
  · cases visited
    exact ⟨sound, told⟩
  next round started =>
  split at visited
  · cases visited
    exact ⟨sound, told⟩
  · obtain ⟨action, rfl, tells⟩ := timeoutRoom_retells sound found started visited
    obtain ⟨_, _, _, returns, move, _⟩ := timeoutRoom_spec shuffler sound before found started
    obtain ⟨_, rfl⟩ := Prod.mk.inj (Except.ok.inj (returns.symm.trans visited))
    refine ⟨managerInv_move sound move, ?_⟩
    rw [List.flatMap_append, List.flatMap_singleton]
    exact told.trans tells

/-- A room that never started leaves nothing to tell. -/
theorem Chronicled.dropIdle (holds : ManagerInv manager) (chronicled : Chronicled gone log manager)
    (found : manager.rooms.lookup roomId = some room) (idle : room.round = none) :
    Chronicled gone log ((manager.stopWaiting room).removeRoom roomId room) := by
  rw [stopWaiting_eq]
  refine chronicled.still ?_ le_rfl (holds.fresh _ _ found) ?_
  · exact removed_others _ roomId room
  · rw [removed_own, found]
    intro story
    rw [story.of_idle idle]
    exact .silent (by simp)

theorem cleanupIdle_chronicled (holds : ManagerInv manager) (chronicled : Chronicled gone log manager)
    (order : VisitOrder RoomId) (now : Time) : Chronicled gone log (manager.cleanupIdle order now) := by
  suffices ManagerInv (manager.cleanupIdle order now) ∧ Chronicled gone log (manager.cleanupIdle order now) from
    this.2
  refine ExceptLoop.foldl_spec (fun _ (current : RoomManager ρ) =>
    ManagerInv current ∧ Chronicled gone log current) _ manager ⟨holds, chronicled⟩ ?_
  intro visited roomId rest current _ ⟨sound, chronicled⟩
  unfold RoomManager.closeIdle
  split
  · exact ⟨sound, chronicled⟩
  next room found =>
  split
  · exact ⟨sound, chronicled⟩
  · next idle =>
    have idle : room.round = none := by simpa using (not_or.mp idle).1
    exact ⟨sound.dropRoom found, chronicled.dropIdle sound found idle⟩

/-- The player, who sits in the room, has been offline for five minutes. -/
def RoomManager.Away (manager : RoomManager ρ) (now : Time) (roomId : RoomId) (player : PlayerId) : Prop :=
  manager.playerRooms.lookup player = some roomId ∧
    ∃ since, manager.offlineSince.lookup player = some since ∧ seconds 300 ≤ now - since

/-- The game of a player who has been away too long ends with the room. -/
theorem dropExpired_retells (holds : ManagerInv manager) (chronicled : Chronicled gone log manager)
    {player : PlayerId} (found : manager.rooms.lookup roomId = some room) (member : player ∈ room.playerIds)
    (away : gone roomId player) (now : Time) :
    Retells gone log ((room.expiredSettlements player now).flatMap GatewayProcess.settleTasks)
      ((manager.stopWaiting room).removeRoom roomId room) := by
  unfold Room.expiredSettlements
  split
  · next idle => exact (chronicled.dropIdle holds found idle).retells rfl
  next round started =>
  have others : ∀ other, other ≠ roomId →
      ((manager.stopWaiting room).removeRoom roomId room).rooms.lookup other =
        manager.rooms.lookup other := by
    rw [stopWaiting_eq]
    exact removed_others _ roomId room
  have number : ((manager.stopWaiting room).removeRoom roomId room).nextRoomId = manager.nextRoomId := by
    rw [stopWaiting_eq]
    rfl
  have gone := removed_own (manager.stopWaiting room) roomId room
  have used := number ▸ holds.fresh _ _ found
  have unsettled := ((holds.room _ _ found).shape.playing started).2.1
  split
  · next unowned =>
    refine Chronicled.retells (chronicled.still others number.ge used ?_) rfl
    rw [found, gone]
    intro story
    obtain ⟨deal, messages, table, hands, opening, tells, represents⟩ := story.of_started started
    cases table with
    | bidding => exact .dissolved opening tells
    | playing | won =>
      have owned := represents.landlord_eq
      rw [unowned] at owned
      cases owned
  · next landlord owned =>
    obtain ⟨leaver, seat⟩ : ∃ leaver : Fin 3, leaver.val = room.seatOf player :=
      ⟨⟨room.seatOf player, (holds.room _ _ found).seat_lt member⟩, rfl⟩
    obtain ⟨own, rfl⟩ : ∃ own : Fin 3, own.val = landlord := by
      obtain ⟨_, _, deals, ready⟩ := (holds.room _ _ found).shape.playing started
      have playing := (ready.landlord_iff unsettled).mp (by simp [owned])
      obtain ⟨own, same⟩ := (ready.playing playing).seated
      exact ⟨own, Option.some.inj (same.symm.trans owned)⟩
    refine ⟨[.settled roomId room.playerIds own (leaver ≠ own)], ?_, ?_⟩
    · refine chronicled.change (by simp [GameEvent.roomId]) others number.ge used ?_
      rw [found, gone]
      intro story
      obtain ⟨deal, messages, table, hands, opening, tells, represents⟩ := story.of_started started
      have same := represents.landlord_eq
      rw [owned] at same
      cases table with
      | bidding => cases same
      | won => exact absurd represents.phase_eq unsettled
      | playing lord =>
        obtain rfl : own = lord := Fin.ext (Option.some.inj same)
        refine .settled opening tells (.left ?_ away)
        rw [seat]
        exact List.getElem?_idxOf member
    · have loses : (leaver.val != own.val) = decide (leaver ≠ own) := by
        rw [Bool.eq_iff_iff, bne_iff_ne, decide_eq_true_iff, Fin.ne_iff_vne]
      rw [← seat, loses, pending_settleTasks room roomId, List.flatMap_singleton]

theorem expired_iff {player : PlayerId} : manager.expired now player ↔
    ∃ since, manager.offlineSince.lookup player = some since ∧ seconds 300 ≤ now - since := by
  unfold RoomManager.expired
  cases manager.offlineSince.lookup player <;> simp

theorem cleanupExpired_retells (holds : ManagerInv manager) (chronicled : Chronicled gone log manager)
    (order : VisitOrder PlayerId) (away : ∀ roomId player, manager.Away now roomId player → gone roomId player) :
    Retells gone log ((manager.cleanupExpired order now).1.flatten.flatMap GatewayProcess.settleTasks)
      (manager.cleanupExpired order now).2 := by
  suffices Shrinks manager (manager.cleanupExpired order now).2 ∧
      ManagerInv (manager.cleanupExpired order now).2 ∧
      Retells gone log ((manager.cleanupExpired order now).1.flatten.flatMap GatewayProcess.settleTasks)
        (manager.cleanupExpired order now).2 from this.2.2
  refine ExceptLoop.foldl_spec (fun _ (state : List (List SettlementEntry) × RoomManager ρ) =>
    Shrinks manager state.2 ∧ ManagerInv state.2 ∧
      Retells gone log (state.1.flatten.flatMap GatewayProcess.settleTasks) state.2) _
    ([], manager) ⟨.refl manager, holds, chronicled.retells rfl⟩ ?_
  intro visited player rest ⟨rooms, current⟩ visits ⟨shrinks, sound, told⟩
  refine ⟨shrinks.trans (closeExpired_players now rooms current player), ?_⟩
  show ManagerInv (RoomManager.closeExpired now rooms current player).2 ∧
    Retells gone log ((RoomManager.closeExpired now rooms current player).1.flatten.flatMap
      GatewayProcess.settleTasks) (RoomManager.closeExpired now rooms current player).2
  unfold RoomManager.closeExpired
  split
  · next absent =>
    rw [UnorderedMap.erase_absent (sound.offline_absent absent)]
    exact ⟨sound, told⟩
  next roomId indexed =>
  obtain ⟨room, found, member⟩ := sound.found indexed
  -- who is visited was away when the loop started, and sat in the same room
  have left : gone roomId player := by
    have member : player ∈ (order.visit manager.offlineSince.keys).filter (manager.expired now) := by
      rw [visits]
      simp
    obtain absent | ⟨same, _⟩ := shrinks player
    · rw [absent] at indexed
      cases indexed
    · exact away roomId player ⟨same ▸ indexed, expired_iff.mp (List.mem_filter.mp member).2⟩
  simp only [found]
  refine ⟨sound.dropRoom found, ?_⟩
  have later := told.trans fun log chronicled => dropExpired_retells sound chronicled found member left now
  split
  · rwa [List.flatten_append, List.flatten_singleton, List.flatMap_append]
  · next nothing =>
    rw [not_not] at nothing
    rwa [nothing, List.flatMap_nil, List.append_nil] at later

end Timer

/-! ## Handlers -/

section Handlers

variable {log : List GameEvent} {base after : GatewayProcess ρ} {moment : Moment} {id : SessionId}
  {player : PlayerId} {notes : List Note}

theorem callLandlord_retells (holds : ManagerInv base.manager) (chronicled : Chronicled gone log base.manager)
    (idle : base.agenda = []) {call : Bool}
    (done : base.handleCallLandlord shuffler moment id player call = .ok (notes, after)) :
    Retells gone log after.agenda after.manager := by
  unfold GatewayProcess.handleCallLandlord RoomManager.callLandlord at done
  obtain nobody | ⟨acted, next, room, round, state, called, spec⟩ :=
    act_spec shuffler holds moment.startedAt moment.now player (.callLandlord · call)
  · simp only [nobody, bind, Except.bind] at done
    cases done
    exact chronicled.retells (by simp [GatewayProcess.push, idle, Task.letters])
  · simp only [called, bind, Except.bind, Option.map_some] at done
    cases done
    rw [GatewayProcess.push, idle, List.append_nil]
    dsimp only
    split
    · next accepted =>
      have done := spec.done
      rw [accepted] at done
      refine ⟨_, spec.told holds chronicled fun table represents => told_call represents done, ?_⟩
      rw [pending_tellAll (by simp [ServerMessage.Lasting]), spec.players]
      simp [GameEvent.letters, spec.moved, accepted]
    · next refused =>
      have refused : acted.accepted = false := Bool.eq_false_iff.mpr refused
      exact (spec.refused holds chronicled refused).retells rfl

theorem pass_retells (holds : ManagerInv base.manager) (chronicled : Chronicled gone log base.manager)
    (idle : base.agenda = [])
    (done : base.handlePass shuffler moment id player = .ok (notes, after)) :
    Retells gone log after.agenda after.manager := by
  unfold GatewayProcess.handlePass RoomManager.pass at done
  obtain nobody | ⟨acted, next, room, round, state, passed, spec⟩ :=
    act_spec shuffler holds moment.now moment.now player .pass
  · simp only [nobody, bind, Except.bind] at done
    cases done
    exact chronicled.retells (by simp [GatewayProcess.push, idle, Task.letters])
  · simp only [passed, bind, Except.bind, Option.map_some] at done
    cases done
    rw [GatewayProcess.push, idle, List.append_nil]
    dsimp only
    split
    · next accepted =>
      have done := spec.done
      rw [accepted] at done
      refine ⟨_, spec.told holds chronicled fun table represents => told_pass represents done, ?_⟩
      rw [pending_cons, pending_tellAll (by simp [ServerMessage.Lasting]), spec.players]
      simp [GameEvent.letters, spec.moved, Task.letters]
    · next refused =>
      have refused : acted.accepted = false := Bool.eq_false_iff.mpr refused
      exact (spec.refused holds chronicled refused).retells rfl

theorem playCards_retells (holds : ManagerInv base.manager) (chronicled : Chronicled gone log base.manager)
    (idle : base.agenda = []) {encoded : List Nat}
    (done : base.handlePlayCards shuffler moment id player encoded = .ok (notes, after)) :
    Retells gone log after.agenda after.manager := by
  unfold GatewayProcess.handlePlayCards RoomManager.playCards at done
  split at done
  · cases done
    exact chronicled.retells (by simp [GatewayProcess.push, idle, Task.letters])
  next cards _ =>
  obtain nobody | ⟨acted, next, room, round, state, played, spec⟩ :=
    act_spec shuffler holds moment.now moment.now player (.playCards · cards)
  · simp only [nobody, bind, Except.bind] at done
    cases done
    exact chronicled.retells (by simp [GatewayProcess.push, idle, Task.letters])
  · simp only [played, bind, Except.bind] at done
    cases accepted : acted.accepted with
    -- what is refused does not end a game
    | false =>
      simp only [accepted, Bool.and_false, Bool.false_eq_true, if_false] at done
      cases done
      refine (spec.refused holds chronicled accepted).retells ?_
      simp [GatewayProcess.push, idle, Task.letters]
    | true =>
      have made := spec.done
      rw [accepted] at made
      have announced : Announced round state.round (.playBroadcast acted.seat
          (cards.map CardCodec.encode) false acted.round.currentSeat) := by
        rw [spec.moved]
        exact fun table represents => told_play represents made
      by_cases settled : state.round.phase = .settled
      · simp only [accepted, spec.moved, settled, decide_true, Bool.and_self, if_true] at done
        cases done
        have retells := spec.won holds chronicled settled (by simp [ServerMessage.Lasting]) announced
          moment.endedAt
        rw [spec.moved] at retells
        rw [GatewayProcess.push, idle, List.append_nil]
        exact retells
      · simp only [accepted, spec.moved, settled, decide_false, Bool.false_and, Bool.false_eq_true,
          if_false, if_true] at done
        cases done
        refine ⟨_, spec.told holds chronicled announced, ?_⟩
        rw [GatewayProcess.push, idle, List.append_nil, List.append_nil, pending_cons,
          pending_tellAll (by simp [ServerMessage.Lasting]), spec.players]
        simp [GameEvent.letters, spec.moved, Task.letters]

theorem quickMatch_retells (holds : ManagerInv base.manager) (chronicled : Chronicled gone log base.manager)
    (idle : base.agenda = [])
    (done : base.handleQuickMatch shuffler moment id player = .ok (notes, after)) :
    Retells gone log after.agenda after.manager := by
  unfold GatewayProcess.handleQuickMatch at done
  split at done
  · cases done
    exact chronicled.retells (by simp [GatewayProcess.push, idle, Task.letters])
  · obtain ⟨⟨result, manager⟩, matched, done⟩ := ExceptLoop.bind_ok.mp done
    cases done
    rw [GatewayProcess.push, idle, List.append_nil]
    exact matchPlayer_retells holds chronicled matched

end Handlers

end Doudizhu.Gateway
