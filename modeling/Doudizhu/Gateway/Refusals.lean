import Doudizhu.Gateway.RoomRuns
import Doudizhu.Gateway.SessionRuns
import Doudizhu.Gateway.StepCases

/-! # Refusals

A request that is refused leaves the room manager as it was, the random generator
included; and a packet that a session answers by closing touches no game, neither itself
nor while the session closes.
-/

namespace Doudizhu.Gateway

open Game

variable {ρ : Type} {shuffler : Shuffler ρ} {protobuf : Protobuf}

/-! ## The room manager -/

/-- There was no game to call, or its round did not accept the call. -/
def RoomAnswer.refused : RoomAnswer → Bool
  | .called result => result.all fun result => !result.accepted
  | .played result | .passed result => result.all fun result => !result.accepted
  | _ => false

section Rooms

variable {manager next : RoomManager ρ} {player : PlayerId}

/-- The round is only asked; what is written back is what was there. -/
theorem act_refused {roundNow now : Time} {op : Nat → RoundOp} {acted : Option RoomManager.Acted}
    (done : manager.act shuffler roundNow now player op = .ok (acted, next))
    (refused : ∀ result ∈ acted, result.accepted = false) : next = manager := by
  unfold RoomManager.act at done
  split at done
  · cases done
    rfl
  · next roomId indexed =>
    obtain ⟨room, found, done⟩ := ExceptLoop.bind_ok.mp done
    split at done
    · cases done
      rfl
    · next round started =>
      obtain ⟨⟨accepted, state⟩, called, done⟩ := ExceptLoop.bind_ok.mp done
      obtain ⟨players, listed, done⟩ := ExceptLoop.bind_ok.mp done
      cases done
      have declined : accepted = false := refused _ rfl
      subst declined
      obtain ⟨accepted, _⟩ | ⟨_, rfl⟩ := exec_cases called
      · cases accepted
      · -- the round and the generator are the old ones, and so is the room around them
        have same : room.keep round false now = room := by
          simp [Room.keep, ← started]
        have placed : manager.rooms.lookup roomId = some room := by
          unfold RoomManager.roomAt at found
          split at found
          · cases found
          · cases found
            assumption
        simp only [same, RoomManager.putRoom, UnorderedMap.insert_self placed]

theorem callLandlord_refused {startedAt now : Time} {call : Bool}
    {result : Option CallLandlordResult}
    (done : manager.callLandlord shuffler startedAt now player call = .ok (result, next))
    (refused : ∀ answer ∈ result, answer.accepted = false) : next = manager := by
  obtain ⟨⟨acted, after⟩, called, done⟩ := ExceptLoop.bind_ok.mp done
  cases done
  apply act_refused called
  intro answer given
  exact refused _ (Option.mem_map_of_mem _ given)

theorem pass_refused {now : Time} {result : Option PlayCardsResult}
    (done : manager.pass shuffler now player = .ok (result, next))
    (refused : ∀ answer ∈ result, answer.accepted = false) : next = manager := by
  obtain ⟨⟨acted, after⟩, called, done⟩ := ExceptLoop.bind_ok.mp done
  cases done
  apply act_refused called
  intro answer given
  exact refused _ (Option.mem_map_of_mem _ given)

theorem playCards_refused {now endedAt : Time} {cards : List Card} {result : Option PlayCardsResult}
    (done : manager.playCards shuffler now endedAt player cards = .ok (result, next))
    (refused : ∀ answer ∈ result, answer.accepted = false) : next = manager := by
  unfold RoomManager.playCards at done
  rw [ExceptLoop.bind_ok] at done
  obtain ⟨⟨acted, after⟩, called, done⟩ := done
  cases acted with
  | none =>
    cases done
    exact act_refused called (by simp)
  | some acted =>
    dsimp only at done
    split at done
    · next ended =>
      cases done
      have accepted := (Bool.and_eq_true_iff.mp ended).2
      have declined : acted.accepted = false := refused _ rfl
      rw [declined] at accepted
      cases accepted
    · cases done
      apply act_refused called
      rintro answer ⟨⟩
      exact refused _ rfl

theorem exec_refused {op : RoomOp} {answer : RoomAnswer}
    (done : op.exec shuffler manager = .ok (answer, next)) (refused : answer.refused) :
    next = manager := by
  cases op with
  | callLandlord startedAt now player call =>
    obtain ⟨⟨result, after⟩, called, done⟩ := ExceptLoop.bind_ok.mp done
    cases done
    apply callLandlord_refused called
    intro result given
    simpa [RoomAnswer.refused, Option.mem_def.mp given] using refused
  | playCards now endedAt player cards =>
    obtain ⟨⟨result, after⟩, called, done⟩ := ExceptLoop.bind_ok.mp done
    cases done
    apply playCards_refused called
    intro result given
    simpa [RoomAnswer.refused, Option.mem_def.mp given] using refused
  | pass now player =>
    obtain ⟨⟨result, after⟩, called, done⟩ := ExceptLoop.bind_ok.mp done
    cases done
    apply pass_refused called
    intro result given
    simpa [RoomAnswer.refused, Option.mem_def.mp given] using refused
  | matchPlayer order now player | timeoutExpired order now startedAt =>
    obtain ⟨⟨result, after⟩, called, done⟩ := ExceptLoop.bind_ok.mp done
    cases done
    cases refused
  | reconnectInfo player | roomState now player =>
    obtain ⟨result, called, done⟩ := ExceptLoop.bind_ok.mp done
    cases done
    cases refused
  | markOnline player | markOffline player now | cleanupIdle order now | cleanupExpired order now =>
    cases done
    cases refused

/-- Who is in a room is matched to it again, at the same seat. -/
theorem matchPlayer_seated (holds : ManagerInv manager) {roomId : RoomId} {room : Room}
    (found : manager.rooms.lookup roomId = some room) (member : player ∈ room.playerIds)
    (order : VisitOrder RoomId) (now : Time) :
    manager.matchPlayer shuffler order now player =
      .ok ({ roomId
             seat := room.seatOf player
             gameStarted := room.round.isSome
             gameStart := none }, manager) := by
  have indexed : manager.playerRooms.lookup player = some roomId :=
    (holds.index player roomId).mpr ⟨room, found, member⟩
  obtain ⟨other, otherRoom, scanned, there, inside⟩ | ⟨_, absent⟩ := findPlayer_spec holds order player
  · have again : manager.playerRooms.lookup player = some other :=
      (holds.index player other).mpr ⟨otherRoom, there, inside⟩
    obtain rfl : other = roomId := Option.some.inj (again.symm.trans indexed)
    obtain rfl : otherRoom = room := Option.some.inj (there.symm.trans found)
    simp only [RoomManager.matchPlayer, scanned]
  · rw [absent] at indexed
    cases indexed

end Rooms

/-! ## Packets -/

/-- A call that touches no game. -/
def Task.calm : Task → Bool
  | .cleanupIdle _ | .cleanupExpired _ => false
  | _ => true

/-- What the handler of a read comes to: it closes a session only where it has left the
    room manager as it was. -/
def Answered (base after : GatewayProcess ρ) : Prop :=
  (after.manager = base.manager ∧ ∀ task ∈ after.agenda, task.calm) ∨
    ∀ id, Task.close id ∉ after.agenda

section Packets

variable {base after : GatewayProcess ρ} {moment : Moment} {id : SessionId} {notes : List Note}

theorem answered_push {tasks : List Task} (idle : base.agenda = []) (calm : ∀ task ∈ tasks, task.calm) :
    Answered base (base.push tasks) := by
  refine .inl ⟨rfl, ?_⟩
  simpa [GatewayProcess.push, idle] using calm

/-- A handler that the rooms have answered closes no session. -/
theorem served_answered {session : Session} (idle : base.agenda = [])
    (served : Served shuffler base moment id session after) : Answered base after := by
  cases served with
  | closed | answered => exact answered_push idle (by simp [Task.calm])
  | login requested => exact .inl ⟨rfl, by simp [GatewayProcess.post, idle]⟩
  | @refused op answer manager asked done nobody =>
    have refused : answer.refused := by
      obtain rfl | rfl | rfl : _ ∨ _ ∨ _ := by simpa using nobody
      all_goals rfl
    obtain rfl := exec_refused done refused
    exact answered_push idle (by simp [Task.calm])
  | asked placed asked done follows first =>
    refine .inr fun other member => ?_
    simp only [GatewayProcess.push, idle, List.append_nil] at member
    exact follows _ member

theorem answered_reads : ReadRule shuffler moment id fun base after : GatewayProcess ρ =>
    base.agenda = [] → Answered base after where
  update answered := answered
  still base idle := .inl ⟨rfl, by simp [idle]⟩
  served served idle := served_answered idle served

theorem reader_answered {event : Event} {reader : SessionId} (idle : base.agenda = [])
    (reads : event.reader = some reader)
    (done : base.step shuffler protobuf event moment = .ok (notes, after)) : Answered base after := by
  simp only [GatewayProcess.step, idle] at done
  have happened := handle_cases shuffler protobuf base moment event
  generalize base.handle shuffler protobuf moment event = outcome at done happened
  cases happened with
  | nothing =>
    cases done
    exact .inl ⟨rfl, by simp [idle]⟩
  | headerRead => exact answered_reads.headerRead done idle
  | bodyRead => exact answered_reads.bodyRead done idle
  | frameRead => exact answered_reads.frameRead done idle
  | _ => cases reads

end Packets

/-! ## Closing -/

/-- All but the offline marks: the rooms with their rounds, hands, turns and deadlines, the
    index of the players, and the generator. -/
structure SameGames (before after : RoomManager ρ) : Prop where
  nextRoomId : after.nextRoomId = before.nextRoomId
  waitingRoomId : after.waitingRoomId = before.waitingRoomId
  rooms : after.rooms = before.rooms
  playerRooms : after.playerRooms = before.playerRooms
  random : after.random = before.random

theorem SameGames.refl (manager : RoomManager ρ) : SameGames manager manager :=
  ⟨rfl, rfl, rfl, rfl, rfl⟩

theorem SameGames.trans {first second third : RoomManager ρ} (left : SameGames first second)
    (right : SameGames second third) : SameGames first third :=
  ⟨right.nextRoomId.trans left.nextRoomId, right.waitingRoomId.trans left.waitingRoomId,
    right.rooms.trans left.rooms, right.playerRooms.trans left.playerRooms,
    right.random.trans left.random⟩

theorem markOffline_games (manager : RoomManager ρ) (player : PlayerId) (now : Time) :
    SameGames manager (manager.markOffline player now) := by
  unfold RoomManager.markOffline
  split
  · exact ⟨rfl, rfl, rfl, rfl, rfl⟩
  · exact .refl manager

/-- The games are those of `start`, and the handler that runs will not touch them. -/
structure Calm (start : RoomManager ρ) (gateway : GatewayProcess ρ) : Prop where
  games : SameGames start gateway.manager
  agenda : ∀ task ∈ gateway.agenda, task.calm

theorem Calm.push {start : RoomManager ρ} {gateway : GatewayProcess ρ} (calm : Calm start gateway)
    {tasks : List Task} (own : ∀ task ∈ tasks, task.calm) : Calm start (gateway.push tasks) := by
  refine ⟨calm.games, fun task member => ?_⟩
  obtain new | old := List.mem_append.mp member
  · exact own task new
  · exact calm.agenda task old

theorem perform_calm {start : RoomManager ρ} {gateway after : GatewayProcess ρ}
    (calm : Calm start gateway) {moment : Moment} {task : Task} (quiet : task.calm) {notes : List Note}
    (done : gateway.perform protobuf moment task = .ok (notes, after)) : Calm start after := by
  cases perform_cases done with
  | nothing => exact calm
  | oversized | handed => exact calm.push (by simp [Task.calm])
  | enqueued | closed | finished | posted => exact ⟨calm.games, calm.agenda⟩
  | @closing id session tasks found opened told =>
    -- the offline mark is the one thing that closing writes
    have marked : Calm start ({ gateway.update id
          (fun session => { session with closed := true, heartbeatArmed := false }) with
        manager := gateway.manager.markOffline session.playerId moment.now } : GatewayProcess ρ) :=
      ⟨calm.games.trans (markOffline_games ..), calm.agenda⟩
    apply marked.push
    intro task member
    obtain member | own := List.mem_append.mp member
    · obtain ⟨player, state, rfl⟩ := told task member
      rfl
    · rw [List.mem_singleton.mp own]
      rfl
  | cleanedIdle | cleanedExpired => cases quiet

/-- While a handler runs, only its own calls are made. -/
theorem step_calm {start : RoomManager ρ} {gateway after : GatewayProcess ρ}
    (calm : Calm start gateway) (busy : gateway.agenda ≠ []) {event : Event} {moment : Moment}
    {notes : List Note} (done : gateway.step shuffler protobuf event moment = .ok (notes, after)) :
    Calm start after := by
  unfold GatewayProcess.step at done
  split at done
  · contradiction
  · next task rest agenda =>
    have own := calm.agenda
    rw [agenda, List.forall_mem_cons] at own
    split at done
    · refine perform_calm ?_ own.1 done
      exact ⟨calm.games, own.2⟩
    · cases done
      exact calm

/-- The handler of a read that closes a session. -/
structure Taken.ClosesReader (taken : Taken ρ) (reader id : SessionId) : Prop where
  idle : taken.before.agenda = []
  reads : taken.event.reader = some reader
  closes : Task.close id ∈ taken.after.agenda

/-- The rest of the handler: the steps that find something left to do. -/
theorem run_calm {start : RoomManager ρ} {gateway finish : GatewayProcess ρ} {during : List (Taken ρ)}
    (run : Transition.Steps (GatewayStep shuffler protobuf) gateway during finish)
    (busy : ∀ taken ∈ during, taken.before.agenda ≠ []) (calm : Calm start gateway) :
    Calm start finish := by
  induction run with
  | refl => exact calm
  | snoc _ step inductionHypothesis =>
    obtain ⟨rfl, rfl, done⟩ := step
    have earlier := inductionHypothesis fun taken member => busy taken (List.mem_append_left _ member)
    exact step_calm earlier (busy _ (by simp)) done

/-- In any state of the rooms, what is refused changes nothing at all, and a match for a
    player who is in a room answers with that room and seat.  In any run of the gateway, a
    packet that is answered by closing leaves the room manager as it was, and until its
    handler has ended, with all the closing that it brings about, no game changes. -/
theorem refused_changes_nothing (shuffler : Shuffler ρ) (protobuf : Protobuf) (random : ρ) :
    (∀ ops, ∃ trace finish, RoomManager.run shuffler { random } ops = .ok (trace, finish) ∧
      (∀ (op : RoomOp) answer next, op.exec shuffler finish = .ok (answer, next) → answer.refused →
        next = finish) ∧
      ∀ order now player roomId room, finish.rooms.lookup roomId = some room →
        player ∈ room.playerIds →
        finish.matchPlayer shuffler order now player =
          .ok ({ roomId
                 seat := room.seatOf player
                 gameStarted := room.round.isSome
                 gameStart := none }, finish)) ∧
    ∀ inputs, ∃ trace finish, ({ manager := { random } } : GatewayProcess ρ).run shuffler protobuf inputs =
        .ok (trace, finish) ∧
      ∀ earlier closing during later reader id, trace = earlier ++ closing :: (during ++ later) →
        closing.ClosesReader reader id → (∀ taken ∈ during, taken.before.agenda ≠ []) →
        closing.after.manager = closing.before.manager ∧
          ∀ taken ∈ during, SameGames closing.before.manager taken.after.manager := by
  constructor
  · intro ops
    obtain ⟨trace, finish, ran, sound⟩ := run_sound shuffler (managerInv_empty random) ops
    refine ⟨trace, finish, ran, fun _ _ _ done refused => exec_refused done refused, ?_⟩
    exact fun order now _ _ _ found member => matchPlayer_seated sound found member order now
  · intro inputs
    obtain ⟨trace, finish, ran, run⟩ := gateway_runs shuffler protobuf random inputs
    refine ⟨trace, finish, ran, ?_⟩
    rintro earlier closing during later reader id rfl ⟨idle, reads, closes⟩ busy
    obtain ⟨before, after, _, ⟨rfl, rfl, done⟩, rest⟩ := run.split_cons
    obtain ⟨same, calm⟩ | stays := reader_answered idle reads done
    · refine ⟨same, ?_⟩
      have start : Calm closing.before.manager closing.after := ⟨same ▸ .refl _, calm⟩
      intro taken member
      obtain ⟨first, last, rfl⟩ := List.append_of_mem member
      rw [List.append_assoc, List.cons_append] at rest
      obtain ⟨left, right, begun, ⟨rfl, rfl, done⟩, _⟩ := rest.split_cons
      have calm := run_calm begun (fun taken own => busy taken (List.mem_append_left _ own)) start
      exact (step_calm calm (busy taken member) done).games
    · exact absurd closes (stays id)

end Doudizhu.Gateway
