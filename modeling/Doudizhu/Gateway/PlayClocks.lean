import Doudizhu.Gateway.Deadlines
import Doudizhu.Gateway.OfflineMarks

/-! # When play started

The clock is read inside a round when its play starts, and again by whoever ends the game.
`exec_starts` says which readings can become the start of a play, and `exec_durations` which
two readings the duration in a settlement lies between.
-/

namespace Doudizhu.Gateway

open Game

variable {ρ : Type} {shuffler : Shuffler ρ}

/-! ## Rounds -/

/-- The play of a round started when it did before, or at this call. -/
theorem exec_playStart {op : RoundOp} {now : Time} {accepted : Bool} {before after : Game.RoundState ρ}
    (done : op.exec shuffler now before = .ok (accepted, after)) :
    ∀ started ∈ after.round.playStartedAt, started ∈ before.round.playStartedAt ∨ started = now := by
  intro started given
  obtain ⟨_, moved⟩ | ⟨_, rfl⟩ := exec_cases done
  · generalize op.resolve before.round = move at moved
    cases moved with
    | redeal => cases given
    | landlord => exact .inr (Option.some.inj given).symm
    | call | play | finish | pass | endTrick => exact .inl given
  · exact .inl given

/-- The call that settles a round is not the one that starts its play. -/
theorem settled_playStart {op : RoundOp} {now : Time} {accepted : Bool} {before after : Game.RoundState ρ}
    (done : op.exec shuffler now before = .ok (accepted, after)) (settled : after.round.phase = .settled) :
    after.round.playStartedAt = before.round.playStartedAt := by
  obtain ⟨_, moved⟩ | ⟨_, rfl⟩ := exec_cases done
  · generalize op.resolve before.round = move at moved
    cases moved with
    | redeal | landlord => cases settled
    | call | play | finish | pass | endTrick => rfl
  · rfl

/-! ## Durations -/

/-- Whole seconds from the start of a play, if it has started. -/
def secondsSince (start : Option Time) (now : Time) : Int :=
  match start with
  | none => 0
  | some started => (now - started).tdiv (seconds 1)

theorem durationSeconds_eq (round : GameRound) (now : Time) :
    round.durationSeconds now = secondsSince round.playStartedAt now := rfl

/-- Less than the span in the wrong direction is rounded to zero. -/
theorem tdiv_nonneg_iff {time span : Int} (positive : 0 < span) : 0 ≤ time.tdiv span ↔ -span < time := by
  obtain forwards | backwards := le_or_gt 0 time
  · exact iff_of_true (Int.tdiv_nonneg forwards positive.le) (by omega)
  · obtain ⟨back, rfl⟩ : ∃ back, time = -back := ⟨-time, by simp⟩
    have rounded : (-back).tdiv span = -(back / span) := by
      rw [Int.neg_tdiv, Int.tdiv_eq_ediv_of_nonneg (by omega)]
    have quotient : back / span < 1 ↔ back < 1 * span := Int.ediv_lt_iff_lt_mul positive
    rw [rounded]
    omega

theorem secondsSince_nonneg {start : Option Time} {now : Time} :
    0 ≤ secondsSince start now ↔ ∀ started ∈ start, started < now + seconds 1 := by
  cases start with
  | none => simp [secondsSince]
  | some started =>
    simp only [secondsSince, tdiv_nonneg_iff (show 0 < seconds 1 by decide), Option.mem_def,
      Option.some.injEq, forall_eq']
    exact neg_lt_sub_iff_lt_add'

theorem settlementEntries_duration {room : Room} {landlord : Nat} {won : Bool} {duration : Int}
    {entry : SettlementEntry} (member : entry ∈ room.settlementEntries landlord won duration) :
    entry.durationSeconds = duration := by
  obtain ⟨⟨player, seat⟩, _, rfl⟩ := List.mem_map.mp member
  rfl

theorem settlements_duration {room : Room} {round : GameRound} {now : Time} {entry : SettlementEntry}
    (member : entry ∈ room.settlements round now) :
    entry.durationSeconds = secondsSince round.playStartedAt now := by
  unfold Room.settlements at member
  split at member
  · rw [settlementEntries_duration member, durationSeconds_eq]
  · cases member

theorem expiredSettlements_duration {room : Room} {round : GameRound} {player : PlayerId} {now : Time}
    {entry : SettlementEntry} (started : room.round = some round)
    (member : entry ∈ room.expiredSettlements player now) :
    entry.durationSeconds = secondsSince round.playStartedAt now := by
  simp only [Room.expiredSettlements, started] at member
  split at member
  · cases member
  · rw [settlementEntries_duration member, durationSeconds_eq]

/-! ## Rooms -/

/-- When the play in the room started. -/
def RoomManager.playStart (manager : RoomManager ρ) (roomId : RoomId) : Option Time :=
  match manager.rooms.lookup roomId with
  | none => none
  | some room => room.round.bind GameRound.playStartedAt

section Rooms

variable {manager next : RoomManager ρ} {roomId : RoomId} {room : Room} {round : GameRound}

theorem playStart_eq (found : manager.rooms.lookup roomId = some room) (started : room.round = some round) :
    manager.playStart roomId = round.playStartedAt := by
  simp [RoomManager.playStart, found, started]

theorem playStart_congr (same : next.rooms.lookup roomId = manager.rooms.lookup roomId) :
    next.playStart roomId = manager.playStart roomId := by
  simp only [RoomManager.playStart, same]

/-- A play that has started has a landlord. -/
theorem landlord_of_playStart (holds : ManagerInv manager)
    (found : manager.rooms.lookup roomId = some room) {time : Time}
    (playing : time ∈ manager.playStart roomId) : room.landlordFound = true := by
  simp only [RoomManager.playStart, found, Option.mem_def, Option.bind_eq_some_iff] at playing
  obtain ⟨round, started, playing⟩ := playing
  obtain ⟨_, unsettled, log, sound⟩ := (holds.room _ _ found).shape.playing started
  rw [landlordFound_eq started, sound.landlord_iff unsettled]
  obtain calling | playCards := holds.phase found started
  · rw [(sound.calling calling).notStarted] at playing
    cases playing
  · exact playCards

/-- The starts of plays are old, or readings of the clock inside the rounds. -/
def PlayStarts (clock : RoomId → Option Time) (before after : RoomManager ρ) : Prop :=
  ∀ roomId, ∀ started ∈ after.playStart roomId,
    started ∈ before.playStart roomId ∨ started ∈ clock roomId

theorem starts_of_fewer {clock : RoomId → Option Time}
    (fewer : ∀ roomId room, next.rooms.lookup roomId = some room →
      manager.rooms.lookup roomId = some room) : PlayStarts clock manager next := by
  intro roomId started given
  cases found : next.rooms.lookup roomId with
  | none => simp [RoomManager.playStart, found] at given
  | some room =>
    rw [playStart_congr (found.trans (fewer roomId room found).symm)] at given
    exact .inl given

/-- One room goes on with its round after a call, or is gone. -/
theorem starts_of_call {clock : RoomId → Option Time} {op : RoundOp} {now : Time} {accepted : Bool}
    {random : ρ} {state : Game.RoundState ρ} (slot : Option Room)
    (found : manager.rooms.lookup roomId = some room) (started : room.round = some round)
    (done : op.exec shuffler now ⟨round, random⟩ = .ok (accepted, state)) (reads : now ∈ clock roomId)
    (written : ∀ room ∈ slot, room.round = some state.round)
    (rooms : ∀ other, next.rooms.lookup other =
      if other = roomId then slot else manager.rooms.lookup other) : PlayStarts clock manager next := by
  intro other time given
  have lookup := rooms other
  split at lookup
  · next same =>
    subst same
    cases slot with
    | none => simp [RoomManager.playStart, lookup] at given
    | some later =>
      rw [playStart_eq lookup (written later rfl)] at given
      obtain old | new := exec_playStart done time given
      · exact .inl (by rwa [playStart_eq found started])
      · exact .inr (new ▸ reads)
  · rw [playStart_congr lookup] at given
    exact .inl given

theorem PlayStarts.trans {clock : RoomId → Option Time} {middle : RoomManager ρ}
    (first : PlayStarts clock manager middle) (second : PlayStarts clock middle next) :
    PlayStarts clock manager next := by
  intro roomId started given
  obtain earlier | new := second roomId started given
  · exact first roomId started earlier
  · exact .inr new

end Rooms

/-! ## Operations -/

/-- The clock inside the round of a room. -/
def RoomOp.playClock : RoomOp → RoomId → Option Time
  | .callLandlord startedAt _ _ _, _ => some startedAt
  | .playCards now _ _ _, _ | .pass now _, _ => some now
  | .timeoutExpired _ _ startedAt, roomId => some (startedAt roomId)
  | _, _ => none

/-- The clock that the durations are counted to. -/
def RoomOp.endClock : RoomOp → Option Time
  | .playCards _ endedAt _ _ => some endedAt
  | .timeoutExpired _ now _ | .cleanupExpired _ now => some now
  | _ => none

section Operations

variable {manager next : RoomManager ρ}

theorem ActedAs.starts {clock : RoomId → Option Time} {roundNow now : Time} {player : PlayerId}
    {op : Nat → RoundOp} {acted : RoomManager.Acted} {room : Room} {round : GameRound}
    {state : RoundState ρ}
    (spec : ActedAs shuffler manager roundNow now player op acted next room round state)
    (reads : roundNow ∈ clock acted.roomId) : PlayStarts clock manager next := by
  refine starts_of_call (some acted.room) spec.found spec.started spec.done reads
    (by simp [spec.kept]) ?_
  rw [spec.after]
  exact fun other => UnorderedMap.find_insert ..

theorem matchPlayer_starts {clock : RoomId → Option Time} {order : VisitOrder RoomId} {now : Time}
    {player : PlayerId} {result : MatchResult} (holds : ManagerInv manager)
    (done : manager.matchPlayer shuffler order now player = .ok (result, next)) :
    PlayStarts clock manager next := by
  obtain ⟨_, _, ran, moved⟩ := matchPlayer_move shuffler holds order now player
  rw [done] at ran
  cases ran
  obtain rfl | ⟨roomId, move⟩ := moved
  · exact starts_of_fewer fun _ _ same => same
  · cases move with
    | joined _ _ _ _ _ begun rooms =>
      intro other started given
      have lookup := congrArg (Finmap.lookup other) rooms
      rw [UnorderedMap.find_insert] at lookup
      split at lookup
      · -- a round that begins has not come to its play
        simp only [RoomManager.playStart, lookup, Option.mem_def, Option.bind_eq_some_iff] at given
        obtain ⟨round, dealt, playing⟩ := given
        obtain ⟨random, rfl⟩ := begun round dealt
        cases playing
      · exact .inl (playStart_congr lookup ▸ given)

/-- What holds of the timer after it has visited the rooms. -/
structure PlayLoop (now : Time) (startedAt : RoomId → Time) (manager : RoomManager ρ)
    (visited : List RoomId) (actions : List TimeoutAction) (current : RoomManager ρ) : Prop where
  sound : ManagerInv current
  others : ∀ roomId ∉ visited, current.rooms.lookup roomId = manager.rooms.lookup roomId
  starts : PlayStarts (fun roomId => some (startedAt roomId)) manager current
  durations : ∀ action ∈ actions, ∀ entry ∈ action.settlements, ∃ roomId,
    entry.durationSeconds = secondsSince (manager.playStart roomId) now

theorem PlayLoop.visit {now : Time} {startedAt : RoomId → Time} {visited : List RoomId}
    {actions : List TimeoutAction} {current : RoomManager ρ} {roomId : RoomId} (new : roomId ∉ visited)
    (loop : PlayLoop now startedAt manager visited actions current) :
    ∃ next, RoomManager.timeoutVisit shuffler now startedAt (actions, current) roomId = .ok next ∧
      PlayLoop now startedAt manager (visited ++ [roomId]) next.1 next.2 := by
  have unvisited : ∀ other, other ∉ visited ++ [roomId] → other ∉ visited ∧ other ≠ roomId := by simp
  obtain ⟨_, done⟩ | ⟨_, room, round, state, action, next, done, acted⟩ :=
    timeoutVisit_cases loop.sound now startedAt actions roomId
  · exact ⟨_, done, loop.sound, fun other absent => loop.others other (unvisited other absent).1,
      loop.starts, loop.durations⟩
  · obtain ⟨found, started, moved, rfl, sound, rooms⟩ := acted
    refine ⟨_, done, sound, ?_, ?_, ?_⟩
    · intro other absent
      obtain ⟨earlier, differ⟩ := unvisited other absent
      rw [rooms, if_neg differ, loop.others other earlier]
    · refine loop.starts.trans (starts_of_call _ found started moved rfl ?_ rooms)
      intro later written
      split at written
      · cases written
      · cases written
        simp
    · intro action member entry given
      obtain before | last := List.mem_append.mp member
      · exact loop.durations action before entry given
      · obtain rfl := List.mem_singleton.mp last
        dsimp only at given
        split at given
        · next settled =>
          refine ⟨roomId, ?_⟩
          rw [settlements_duration given, settled_playStart moved settled,
            ← playStart_congr (loop.others roomId new), playStart_eq found started]
        · cases given

theorem timeoutExpired_play (holds : ManagerInv manager) {order : VisitOrder RoomId} {now : Time}
    {startedAt : RoomId → Time} {actions : List TimeoutAction}
    (done : manager.timeoutExpired shuffler order now startedAt = .ok (actions, next)) :
    PlayLoop now startedAt manager (order.visit manager.rooms.keys) actions next := by
  have initial : PlayLoop now startedAt manager [] [] manager :=
    ⟨holds, fun _ _ => rfl, starts_of_fewer fun _ _ same => same, by simp⟩
  obtain ⟨_, ran, loop⟩ := ExceptLoop.foldlM_spec
    (fun visited state => PlayLoop now startedAt manager visited state.1 state.2)
    (order.visit manager.rooms.keys) ([], manager) initial
    fun visited roomId rest state split loop =>
      loop.visit (ExceptLoop.notMem_visited (order.nodup _) split)
  rw [RoomManager.timeoutExpired, ran] at done
  cases done
  exact loop

theorem act_starts (holds : ManagerInv manager) {clock : RoomId → Option Time} {roundNow now : Time}
    {player : PlayerId} {op : Nat → RoundOp} {acted : Option RoomManager.Acted}
    (done : manager.act shuffler roundNow now player op = .ok (acted, next))
    (reads : ∀ roomId, roundNow ∈ clock roomId) : PlayStarts clock manager next := by
  obtain same | ⟨_, _, _, _, _, same, spec⟩ := act_spec shuffler holds roundNow now player op
  · rw [same] at done
    cases done
    exact starts_of_fewer fun _ _ same => same
  · rw [same] at done
    cases done
    exact spec.starts (reads _)

theorem playCards_play (clock : RoomId → Option Time) {now endedAt : Time} {player : PlayerId}
    {cards : List Card} {result : Option PlayCardsResult} (holds : ManagerInv manager)
    (reads : ∀ roomId, now ∈ clock roomId)
    (done : manager.playCards shuffler now endedAt player cards = .ok (result, next)) :
    PlayStarts clock manager next ∧
      ∀ batch ∈ (RoomAnswer.played result).batches, ∀ entry ∈ batch, ∃ roomId,
        entry.durationSeconds = secondsSince (manager.playStart roomId) endedAt := by
  unfold RoomManager.playCards at done
  obtain act | ⟨acted, after, room, round, state, act, spec⟩ :=
    act_spec shuffler holds now now player (.playCards · cards)
  · rw [act] at done
    cases done
    exact ⟨starts_of_fewer fun _ _ same => same, by simp [RoomAnswer.batches]⟩
  · rw [act] at done
    simp only [bind, Except.bind, spec.moved] at done
    split at done
    · next finished =>
      cases done
      rw [spec.removed holds]
      refine ⟨starts_of_call none spec.found spec.started spec.done (reads _) (by simp)
        fun other => find_removeRoom manager acted.roomId room other, ?_⟩
      intro batch given entry member
      simp only [RoomAnswer.batches] at given
      split at given
      · cases given
      · rw [List.mem_singleton.mp given] at member
        have settled : state.round.phase = .settled := by
          simp only [Bool.and_eq_true, decide_eq_true_eq] at finished
          exact finished.1
        refine ⟨acted.roomId, ?_⟩
        rw [settlements_duration member, settled_playStart spec.done settled,
          playStart_eq spec.found spec.started]
    · cases done
      exact ⟨spec.starts (reads _), by simp [RoomAnswer.batches]⟩

/-- Plays start at the clock inside their rounds. -/
theorem exec_starts (holds : ManagerInv manager) {op : RoomOp} {answer : RoomAnswer}
    (done : op.exec shuffler manager = .ok (answer, next)) : PlayStarts op.playClock manager next := by
  cases op with
  | matchPlayer order now player =>
    obtain ⟨⟨result, after⟩, done, same⟩ := ExceptLoop.bind_ok.mp done
    cases same
    exact matchPlayer_starts holds done
  | callLandlord startedAt now player called =>
    obtain ⟨⟨result, after⟩, done, same⟩ := ExceptLoop.bind_ok.mp done
    cases same
    obtain ⟨⟨acted, middle⟩, act, same⟩ := ExceptLoop.bind_ok.mp done
    cases same
    exact act_starts holds act fun _ => rfl
  | playCards now endedAt player cards =>
    obtain ⟨⟨result, after⟩, done, same⟩ := ExceptLoop.bind_ok.mp done
    cases same
    exact (playCards_play _ holds (fun _ => rfl) done).1
  | pass now player =>
    obtain ⟨⟨result, after⟩, done, same⟩ := ExceptLoop.bind_ok.mp done
    cases same
    obtain ⟨⟨acted, middle⟩, act, same⟩ := ExceptLoop.bind_ok.mp done
    cases same
    exact act_starts holds act fun _ => rfl
  | reconnectInfo player | roomState now player =>
    obtain ⟨result, done, same⟩ := ExceptLoop.bind_ok.mp done
    cases same
    exact starts_of_fewer fun _ _ same => same
  | markOnline player =>
    cases done
    exact starts_of_fewer fun _ _ same => same
  | markOffline player now =>
    cases done
    refine starts_of_fewer fun _ _ same => ?_
    unfold RoomManager.markOffline at same
    split at same <;> exact same
  | timeoutExpired order now startedAt =>
    obtain ⟨⟨actions, after⟩, done, same⟩ := ExceptLoop.bind_ok.mp done
    cases same
    exact (timeoutExpired_play holds done).starts
  | cleanupIdle order now =>
    cases done
    exact starts_of_fewer fun _ _ => cleanupIdle_rooms order now
  | cleanupExpired order now =>
    dsimp only [RoomOp.exec] at done
    cases done
    exact starts_of_fewer fun _ _ => cleanupExpired_rooms order now

/-- A duration lies between the start of a play and the clock of who ended it. -/
theorem exec_durations (holds : ManagerInv manager) {op : RoomOp} {answer : RoomAnswer}
    (done : op.exec shuffler manager = .ok (answer, next)) {batch : List SettlementEntry}
    (given : batch ∈ answer.batches) {entry : SettlementEntry} (member : entry ∈ batch) :
    ∃ roomId, ∃ now ∈ op.endClock,
      entry.durationSeconds = secondsSince (manager.playStart roomId) now := by
  cases op with
  | playCards now endedAt player cards =>
    obtain ⟨⟨result, after⟩, done, same⟩ := ExceptLoop.bind_ok.mp done
    cases same
    obtain ⟨_, durations⟩ := playCards_play (fun _ => some now) holds (fun _ => rfl) done
    obtain ⟨roomId, duration⟩ := durations batch given entry member
    exact ⟨roomId, endedAt, rfl, duration⟩
  | timeoutExpired order now startedAt =>
    obtain ⟨⟨actions, after⟩, done, same⟩ := ExceptLoop.bind_ok.mp done
    cases same
    obtain ⟨some, _⟩ := List.mem_filter.mp given
    obtain ⟨action, present, rfl⟩ := List.mem_map.mp some
    obtain ⟨roomId, duration⟩ := (timeoutExpired_play holds done).durations action present entry member
    exact ⟨roomId, now, rfl, duration⟩
  | cleanupExpired order now =>
    dsimp only [RoomOp.exec] at done
    cases done
    obtain ⟨_, _, ends⟩ := cleanupExpired_comes shuffler holds order now
    obtain ⟨roomId, room, player, found, _, _, _, _, rfl⟩ := ends batch given
    cases started : room.round with
    | none => simp [Room.expiredSettlements, started] at member
    | some round =>
      refine ⟨roomId, now, rfl, ?_⟩
      rw [expiredSettlements_duration started member, playStart_eq found started]
  | matchPlayer | callLandlord | pass | reconnectInfo | roomState =>
    obtain ⟨_, _, same⟩ := ExceptLoop.bind_ok.mp done
    cases same
    cases given
  | markOnline | markOffline | cleanupIdle =>
    cases done
    cases given

end Operations

/-! ## Durations that are not negative -/

/-- Every play had started by then. -/
def RoomManager.StartedBy (manager : RoomManager ρ) (time : Time) : Prop :=
  ∀ roomId, ∀ started ∈ manager.playStart roomId, started ≤ time

/-- Nobody has expired in a room whose play starts a second or more after the clock of the
    clean-up. -/
def RoomManager.ExpiresInTime (manager : RoomManager ρ) (now : Time) : Prop :=
  ∀ player roomId, manager.expired now player → manager.playerRooms.lookup player = some roomId →
    ∀ started ∈ manager.playStart roomId, started < now + seconds 1

section Nonnegative

variable {manager next : RoomManager ρ}

theorem PlayStarts.startedBy {clock : RoomId → Option Time} {time later : Time}
    (starts : PlayStarts clock manager next) (holds : manager.StartedBy time) (earlier : time ≤ later)
    (reads : ∀ roomId, ∀ reading ∈ clock roomId, reading ≤ later) : next.StartedBy later := by
  intro roomId started given
  obtain old | new := starts roomId started given
  · exact (holds roomId started old).trans earlier
  · exact reads roomId started new

theorem RoomManager.StartedBy.nonneg {time now : Time} (holds : manager.StartedBy time)
    (later : time ≤ now) (roomId : RoomId) : 0 ≤ secondsSince (manager.playStart roomId) now := by
  rw [secondsSince_nonneg]
  intro started given
  have before := (holds roomId started given).trans later
  exact before.trans_lt (lt_add_of_pos_right now (by decide))

/-- The clean-up settles the game of a room in which somebody has expired. -/
theorem cleanupExpired_settles (shuffler : Shuffler ρ) (holds : ManagerInv manager)
    (order : VisitOrder PlayerId) {now : Time} {player : PlayerId} {roomId : RoomId} {room : Room}
    (gone : manager.expired now player) (indexed : manager.playerRooms.lookup player = some roomId)
    (found : manager.rooms.lookup roomId = some room) (landlord : room.landlordFound) :
    ∃ batch ∈ (manager.cleanupExpired order now).1, ∃ other,
      batch = room.expiredSettlements other now ∧ batch ≠ [] := by
  obtain ⟨events, comes, ends⟩ := cleanupExpired_comes shuffler holds order now
  have visited : player ∈ (order.visit manager.offlineSince.keys).filter (manager.expired now) := by
    rw [mem_visited]
    unfold RoomManager.expired at gone
    split at gone
    · cases gone
    · next since noted => exact ⟨since, noted, by simpa using gone⟩
  have left := (cleanupExpired_loop holds order now).gone player visited roomId indexed
  -- a room with a landlord leaves one batch behind
  have effect := moves_effect holds comes.moves comes.once roomId
  rw [found, left, ← comes.batches] at effect
  generalize counted : batchesFor roomId (manager.cleanupExpired order now).1 = number at effect
  cases effect with
  | left =>
    rw [if_pos landlord] at counted
    obtain ⟨batch, given, about⟩ := List.countP_pos_iff.mp (counted.symm ▸ Nat.one_pos)
    obtain ⟨entry, member, game⟩ := List.any_eq_true.mp about
    obtain ⟨otherId, otherRoom, other, otherFound, _, _, _, _, rfl⟩ := ends batch given
    have own : otherRoom.id = roomId := by
      have named : entry.gameId = toString otherRoom.id := by
        cases owned : otherRoom.landlord with
        | none => simp [expiredSettlements_none owned] at member
        | some seat =>
          obtain ⟨duration, entries⟩ := expiredSettlements_some owned now
          rw [entries] at member
          exact settlementEntries_game member
      exact toString_injective (named.symm.trans (of_decide_eq_true game))
    rw [(holds.room otherId otherRoom otherFound).id] at own
    subst own
    obtain rfl := Option.some.inj (otherFound.symm.trans found)
    exact ⟨_, given, other, rfl, List.ne_nil_of_mem member⟩

theorem cleanupExpired_nonneg_iff (shuffler : Shuffler ρ) (holds : ManagerInv manager)
    (order : VisitOrder PlayerId) (now : Time) :
    (∀ batch ∈ (manager.cleanupExpired order now).1, ∀ entry ∈ batch, 0 ≤ entry.durationSeconds) ↔
      manager.ExpiresInTime now := by
  constructor
  · intro nonnegative player roomId gone indexed started given
    obtain ⟨room, found, _⟩ := holds.found indexed
    have landlord := landlord_of_playStart holds found given
    obtain ⟨batch, inside, other, rfl, nonempty⟩ :=
      cleanupExpired_settles shuffler holds order gone indexed found landlord
    obtain ⟨entry, member⟩ := List.exists_mem_of_ne_nil _ nonempty
    have duration := nonnegative _ inside entry member
    cases dealt : room.round with
    | none => simp [Room.expiredSettlements, dealt] at nonempty
    | some round =>
      rw [expiredSettlements_duration dealt member, secondsSince_nonneg] at duration
      exact duration started (playStart_eq found dealt ▸ given)
  · intro inTime batch given entry member
    obtain ⟨_, _, ends⟩ := cleanupExpired_comes shuffler holds order now
    obtain ⟨roomId, room, player, found, since, inside, noted, long, rfl⟩ := ends batch given
    cases dealt : room.round with
    | none => simp [Room.expiredSettlements, dealt] at member
    | some round =>
      rw [expiredSettlements_duration dealt member, secondsSince_nonneg, ← playStart_eq found dealt]
      refine inTime player roomId ?_ ((holds.index player roomId).mpr ⟨room, found, inside⟩)
      simpa [RoomManager.expired, noted] using long

end Nonnegative

end Doudizhu.Gateway
