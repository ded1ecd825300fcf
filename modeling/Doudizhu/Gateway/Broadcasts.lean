import Doudizhu.Gateway.Retelling
import Doudizhu.Gateway.StepCases
import Doudizhu.Gateway.SessionRuns

/-! # Players are told the game

The messages that the gateway hands to the notifier, room states aside, are the letters of
one log, in its order: for each room a game by the rules, each of its moves announced to all
three players, and how it was settled.
-/

namespace Doudizhu.Gateway

open Game

variable {ρ : Type} {shuffler : Shuffler ρ} {protobuf : Protobuf} {gone : RoomId → PlayerId → Prop}

/-! ## What is handed over -/

/-- The message that was handed to the notifier, unless it is a room state. -/
def Note.letters : Note → List (PlayerId × ServerMessage)
  | .handed _ (.roomState _) _ => []
  | .handed player message _ => [(player, message)]
  | _ => []

def delivered (notes : List Note) : List (PlayerId × ServerMessage) := notes.flatMap Note.letters

/-- The settlement of rooms that expire is what a handler does last. -/
def LastExpires : List Task → Prop
  | [] => True
  | .cleanupExpired _ :: rest => rest = []
  | _ :: rest => LastExpires rest

def Task.expires : Task → Bool
  | .cleanupExpired _ => true
  | _ => false

theorem LastExpires.tail {task : Task} {rest : List Task} (last : LastExpires (task :: rest)) :
    LastExpires rest := by
  cases task with
  | cleanupExpired now =>
    obtain rfl : rest = [] := last
    trivial
  | _ => exact last

theorem LastExpires.push {tasks rest : List Task} (last : LastExpires rest)
    (other : ∀ task ∈ tasks, task.expires = false) : LastExpires (tasks ++ rest) := by
  induction tasks with
  | nil => exact last
  | cons task tasks inductionHypothesis =>
    have later := inductionHypothesis fun task member => other task (List.mem_cons_of_mem _ member)
    have own := other task List.mem_cons_self
    cases task with
    | cleanupExpired now => cases own
    | _ => exact later

theorem expires_of_follows {id : SessionId} {answer : RoomAnswer} {task : Task}
    (follows : task.Follows id answer) : task.expires = false := by
  cases task with
  | cleanupExpired now => exact follows.elim
  | _ => rfl

/-! ## Packets -/

/-- What a relation has to meet to hold of every packet of a session: it does not see what
    the session changes for itself, and holds of what is dispatched. -/
structure PacketRule (shuffler : Shuffler ρ) (moment : Moment) (id : SessionId)
    (Relates : GatewayProcess ρ → GatewayProcess ρ → Prop) : Prop where
  update : ∀ {base after : GatewayProcess ρ} {change : Session → Session},
    Relates (base.update id change) after → Relates base after
  still : ∀ base, Relates base base
  dispatched : ∀ {base after : GatewayProcess ρ} {notes : List Note} {session : Session},
    Dispatched shuffler base moment id session (.ok (notes, after)) → Relates base after

section Packets

variable {moment : Moment} {id : SessionId}
  {Relates : GatewayProcess ρ → GatewayProcess ρ → Prop} {base after : GatewayProcess ρ}
  {session : Session} {notes : List Note}

theorem PacketRule.closed (rule : PacketRule shuffler moment id Relates) (session : Session)
    (done : base.calls [.close id] = .ok (notes, after)) : Relates base after := by
  have dispatched : Dispatched shuffler base moment id session (base.calls [.close id]) := .closed
  rw [done] at dispatched
  exact rule.dispatched dispatched

theorem PacketRule.dispatch (rule : PacketRule shuffler moment id Relates) {messageId : Nat} {body : Bytes}
    (done : base.dispatch shuffler protobuf moment id session messageId body = .ok (notes, after)) :
    Relates base after := by
  have dispatched := dispatch_cases shuffler protobuf base moment id session messageId body
  rw [done] at dispatched
  exact rule.dispatched dispatched

theorem PacketRule.tcpPacket (rule : PacketRule shuffler moment id Relates)
    {header : PacketHeader} {body : Bytes}
    (done : base.handleTcpPacket shuffler protobuf moment id session header body = .ok (notes, after)) :
    Relates base after := by
  simp only [GatewayProcess.handleTcpPacket] at done
  split at done
  · exact rule.update (rule.closed session done)
  · exact rule.update (rule.dispatch done)

theorem PacketRule.webSocketPacket (rule : PacketRule shuffler moment id Relates) {packet : Bytes}
    (done : base.handleWebSocketPacket shuffler protobuf moment id session packet = .ok (notes, after)) :
    Relates base after := by
  simp only [GatewayProcess.handleWebSocketPacket] at done
  split at done
  · exact rule.closed session done
  split at done
  · exact rule.closed session done
  split at done
  · exact rule.update (rule.closed session done)
  · exact rule.update (rule.dispatch done)

theorem PacketRule.headerRead (rule : PacketRule shuffler moment id Relates)
    {bytes : Option (Vector UInt8 6)}
    (done : base.headerRead shuffler protobuf moment id session bytes = .ok (notes, after)) :
    Relates base after := by
  simp only [GatewayProcess.headerRead] at done
  split at done
  · exact rule.update (rule.closed session done)
  split at done
  · exact rule.update (rule.closed session done)
  split at done
  · exact rule.update (rule.closed session done)
  split at done
  · exact rule.update (rule.update (rule.tcpPacket done))
  · cases done
    exact rule.update (rule.update (rule.still _))

theorem PacketRule.bodyRead (rule : PacketRule shuffler moment id Relates) {header : PacketHeader}
    {body : Option Bytes}
    (done : base.bodyRead shuffler protobuf moment id session header body = .ok (notes, after)) :
    Relates base after := by
  simp only [GatewayProcess.bodyRead] at done
  split at done
  · exact rule.update (rule.closed session done)
  · exact rule.update (rule.tcpPacket done)

theorem PacketRule.frameRead (rule : PacketRule shuffler moment id Relates) {frame : Option Bytes}
    (done : base.frameRead shuffler protobuf moment id session frame = .ok (notes, after)) :
    Relates base after := by
  simp only [GatewayProcess.frameRead] at done
  split at done
  · exact rule.update (rule.closed session done)
  · exact rule.update (rule.webSocketPacket done)

end Packets

/-! ## Handlers -/

/-- Between handlers, what happens is told by calls that are left to make. -/
def Unfolds (before after : GatewayProcess ρ) : Prop :=
  before.agenda = [] → ManagerInv before.manager → ∀ gone log, Chronicled gone log before.manager →
    Retells gone log after.agenda after.manager ∧ LastExpires after.agenda

section Handlers

variable {base after : GatewayProcess ρ} {moment : Moment} {id : SessionId} {session : Session}
  {notes : List Note}

theorem Unfolds.calls {tasks : List Task} (nothing : pending tasks = [])
    (other : ∀ task ∈ tasks, task.expires = false) (done : base.calls tasks = .ok (notes, after)) :
    Unfolds base after := by
  cases done
  intro idle _ gone log chronicled
  rw [GatewayProcess.push, idle, List.append_nil]
  have last : LastExpires (tasks ++ []) := LastExpires.push trivial other
  rw [List.append_nil] at last
  exact ⟨chronicled.retells nothing, last⟩

theorem served_last (idle : base.agenda = []) (served : Served shuffler base moment id session after) :
    LastExpires after.agenda := by
  have rest : LastExpires base.agenda := by
    rw [idle]
    trivial
  cases served with
  | login => exact rest
  | closed | answered | refused => exact rest.push (by simp [Task.expires])
  | asked _ _ _ follows => exact rest.push fun task member => expires_of_follows (follows task member)

theorem dispatched_unfolds (dispatched : Dispatched shuffler base moment id session (.ok (notes, after))) :
    Unfolds base after := by
  intro idle holds gone log chronicled
  refine ⟨?_, served_last idle dispatched.served⟩
  generalize done : Except.ok (notes, after) = outcome at dispatched
  cases dispatched with
  | closed =>
    cases done
    exact chronicled.retells (by simp [GatewayProcess.push, idle, Task.letters])
  | login requested =>
    cases done
    exact chronicled.retells (by simp [GatewayProcess.post, idle])
  | heartbeat =>
    cases done
    exact chronicled.retells (by simp [GatewayProcess.push, idle, Task.letters])
  | quickMatch => exact quickMatch_retells holds chronicled idle done.symm
  | callLandlord => exact callLandlord_retells holds chronicled idle done.symm
  | playCards => exact playCards_retells holds chronicled idle done.symm
  | pass => exact pass_retells holds chronicled idle done.symm
  | reconnect =>
    obtain ⟨info, _, done⟩ := ExceptLoop.bind_ok.mp done.symm
    cases info <;> cases done <;>
      exact chronicled.retells (by simp [GatewayProcess.push, idle, Task.letters])

theorem unfolds_packets (moment : Moment) (id : SessionId) :
    PacketRule shuffler moment id (@Unfolds ρ) where
  update unfolds := unfolds
  still base idle _ gone log chronicled := by
    rw [idle]
    exact ⟨chronicled.retells rfl, trivial⟩
  dispatched := dispatched_unfolds

end Handlers

/-! ## Events -/

section Events

variable {before after : GatewayProcess ρ} {moment : Moment} {notes : List Note}

theorem completeLogin_unfolds {completion : LoginCompletion}
    (done : before.completeLogin moment completion = .ok (notes, after)) : Unfolds before after := by
  intro idle _ gone log chronicled
  cases completeLogin_cases done with
  | refused =>
    refine ⟨chronicled.retells (by simp [GatewayProcess.push, idle, Task.letters]), ?_⟩
    rw [GatewayProcess.push, idle]
    trivial
  | @accepted players message =>
    have silent : pending (players.map Task.notifyRoomState) = [] := by
      simp [pending, List.flatMap_eq_nil_iff, Task.letters]
    have online : Chronicled gone log (before.manager.markOnline completion.result.playerId) :=
      chronicled.same rfl rfl
    refine ⟨online.retells ?_, ?_⟩
    · simp [GatewayProcess.push, GatewayProcess.update, idle, silent, Task.letters]
    · have rest : LastExpires before.agenda := by
        rw [idle]
        trivial
      refine rest.push ?_
      intro task member
      obtain told | answer := List.mem_append.mp member
      · obtain ⟨_, _, rfl⟩ := List.mem_map.mp told
        rfl
      · rw [List.mem_singleton.mp answer]
        rfl

theorem cleanup_unfolds (done : before.cleanup shuffler moment = .ok (notes, after)) :
    Unfolds before after := by
  intro idle holds gone log chronicled
  obtain ⟨⟨actions, manager⟩, timed, done⟩ := ExceptLoop.bind_ok.mp done
  cases done
  rw [GatewayProcess.push, idle, List.append_nil]
  constructor
  · obtain ⟨more, later, told⟩ := timeoutExpired_retells holds chronicled timed
    exact ⟨more, later, by rw [pending_append, told]; simp [Task.letters]⟩
  · have last : LastExpires [Task.cleanupIdle moment.now, Task.cleanupExpired moment.now] := rfl
    refine last.push ?_
    intro task member
    obtain ⟨action, _, member⟩ := List.mem_flatMap.mp member
    obtain told | settled := List.mem_append.mp member
    · obtain ⟨player, _, told⟩ := List.mem_flatMap.mp told
      obtain rfl | rfl : _ ∨ _ := by simpa using told
      · rfl
      · rfl
    · obtain ⟨entry, _, settled⟩ := List.mem_flatMap.mp settled
      obtain rfl | rfl : _ ∨ _ := by simpa [GatewayProcess.settleTasks] using settled
      · rfl
      · rfl

/-- The rooms are left alone, and nothing is left to do. -/
theorem Unfolds.aside (manager : after.manager = before.manager) (agenda : after.agenda = before.agenda) :
    Unfolds before after := by
  intro idle _ gone log chronicled
  rw [manager, agenda, idle]
  exact ⟨chronicled.retells rfl, trivial⟩

theorem Unfolds.close {id : SessionId} (done : before.calls [.close id] = .ok (notes, after)) :
    Unfolds before after :=
  .calls rfl (by simp [Task.expires]) done

theorem handle_unfolds {event : Event}
    (done : before.handle shuffler protobuf moment event = .ok (notes, after)) : Unfolds before after := by
  have packets : ∀ id, PacketRule shuffler moment id (@Unfolds ρ) := unfolds_packets moment
  have happened := handle_cases shuffler protobuf before moment event
  rw [done] at happened
  generalize answer : Except.ok (notes, after) = outcome at happened
  cases happened with
  | nothing | accepted | shaken | written | returned =>
    cases answer
    exact .aside rfl rfl
  | unshaken | unwritten | expired => exact (packets _).update (.close answer.symm)
  | headerRead => exact (packets _).headerRead answer.symm
  | bodyRead => exact (packets _).bodyRead answer.symm
  | frameRead => exact (packets _).frameRead answer.symm
  | loginCompleted =>
    have unfolds := completeLogin_unfolds answer.symm
    exact unfolds
  | cleanup => exact cleanup_unfolds answer.symm

end Events

/-! ## Calls -/

section Calls

variable {before after : GatewayProcess ρ} {moment : Moment} {notes : List Note} {log : List GameEvent}
  {rest : List Task}

/-- What was left to be handed over is handed over or still left, before what is added. -/
def HandsOn (gone : RoomId → PlayerId → Prop) (log : List GameEvent) (agenda : List Task) (notes : List Note)
    (after : GatewayProcess ρ) : Prop :=
  ∃ more, Chronicled gone (log ++ more) after.manager ∧
    delivered notes ++ pending after.agenda = pending agenda ++ more.flatMap GameEvent.letters ∧
    LastExpires after.agenda

theorem HandsOn.nothing {agenda : List Task} (chronicled : Chronicled gone log after.manager)
    (same : delivered notes ++ pending after.agenda = pending agenda) (last : LastExpires after.agenda) :
    HandsOn gone log agenda notes after :=
  ⟨[], by rwa [List.append_nil], by simpa using same, last⟩

/-- Calls that have nothing to tell come first. -/
theorem HandsOn.push {task : Task} (tasks : List Task) (silent : task.letters = [])
    (chronicled : Chronicled gone log after.manager) (last : LastExpires rest) (nothing : pending tasks = [])
    (other : ∀ task ∈ tasks, task.expires = false) (agenda : after.agenda = tasks ++ rest) :
    HandsOn gone log (task :: rest) [] after := by
  refine .nothing chronicled ?_ ?_
  · rw [agenda, pending_append, nothing, pending_cons, silent]
    rfl
  · rw [agenda]
    exact last.push other

theorem send_handsOn (chronicled : Chronicled gone log before.manager) (last : LastExpires rest)
    (agenda : before.agenda = rest) {player : PlayerId} {message : ServerMessage} {task : Task}
    (same : task.letters = (Task.notify player message).letters)
    (done : before.send player message = .ok (notes, after)) : HandsOn gone log (task :: rest) notes after := by
  have handed (receiver : Option SessionId) :
      delivered [.handed player message receiver] = task.letters := by
    rw [same]
    cases message <;> rfl
  unfold GatewayProcess.send at done
  split at done
  · cases done
    refine .nothing chronicled ?_ (agenda ▸ last)
    rw [handed, agenda, pending_cons]
  · cases done
    refine .nothing chronicled ?_ ?_
    · rw [handed, GatewayProcess.push, agenda]
      simp [Task.letters]
    · rw [GatewayProcess.push, agenda]
      exact last.push (by simp [Task.expires])

theorem HandsOn.none {task : Task} (silent : task.letters = [])
    (chronicled : Chronicled gone log after.manager) (last : LastExpires rest) (agenda : after.agenda = rest) :
    HandsOn gone log (task :: rest) [] after :=
  .push [] silent chronicled last pending_nil (by simp) (agenda.trans (List.nil_append rest).symm)

/-- Only room states are sent where a session closes. -/
theorem close_handsOn {id : SessionId} (chronicled : Chronicled gone log before.manager) (last : LastExpires rest)
    (agenda : before.agenda = rest) (done : before.close moment id = .ok (notes, after)) :
    HandsOn gone log (.close id :: rest) notes after := by
  simp only [GatewayProcess.close] at done
  split at done
  · cases done
    exact .none rfl chronicled last agenda
  next session _ =>
  split at done
  · cases done
    exact .none rfl chronicled last agenda
  split at done
  · have away : Chronicled gone log (before.manager.markOffline session.playerId moment.now) := by
      refine chronicled.same (markOffline_rooms ..) ?_
      unfold RoomManager.markOffline
      split <;> rfl
    obtain ⟨state, _, done⟩ := ExceptLoop.bind_ok.mp done
    cases state with
    | none =>
      cases done
      exact .push [.finishClose id] rfl away last rfl (by simp [Task.expires]) (congrArg (_ ++ ·) agenda)
    | some state =>
      cases done
      refine .push _ rfl away last ?_ ?_ (congrArg (_ ++ ·) agenda)
      · simp [pending, List.flatMap_eq_nil_iff, Task.letters]
      · intro task member
        obtain told | finish := List.mem_append.mp member
        · obtain ⟨_, _, rfl⟩ := List.mem_map.mp told
          rfl
        · rw [List.mem_singleton.mp finish]
          rfl
  · cases done
    exact .none rfl chronicled last agenda

theorem perform_handsOn {task : Task} (done : before.perform protobuf moment task = .ok (notes, after))
    (holds : ManagerInv before.manager) (chronicled : Chronicled gone log before.manager)
    (last : LastExpires (task :: rest)) (agenda : before.agenda = rest)
    (finds : ∀ now, task = .cleanupExpired now → ∀ roomId player, before.manager.Away now roomId player →
      gone roomId player) : HandsOn gone log (task :: rest) notes after := by
  have later := last.tail
  cases task with
  | notify player message => exact send_handsOn chronicled later agenda rfl done
  | notifyRoomState player =>
    obtain ⟨state, _, done⟩ := ExceptLoop.bind_ok.mp done
    cases state with
    | none =>
      cases done
      exact .none rfl chronicled later agenda
    | some state => exact send_handsOn chronicled later agenda rfl done
  | sendPacket id message =>
    simp only [GatewayProcess.perform, GatewayProcess.sendPacket] at done
    split at done
    · cases done
      exact .push [.close id] rfl chronicled later rfl (by simp [Task.expires]) (congrArg (_ ++ ·) agenda)
    · cases done
      exact .none rfl chronicled later agenda
  | close id => exact close_handsOn chronicled later agenda done
  | finishClose id =>
    simp only [GatewayProcess.perform, GatewayProcess.finishClose] at done
    split at done
    · cases done
      exact .none rfl chronicled later agenda
    · split at done <;>
      · cases done
        exact .none rfl chronicled later agenda
  | postSettle entry =>
    cases done
    exact .none rfl chronicled later agenda
  | cleanupIdle now =>
    cases done
    exact .none rfl (cleanupIdle_chronicled holds chronicled moment.rooms now) later agenda
  | cleanupExpired now =>
    cases done
    -- nothing is left to hand over before the settlements
    obtain rfl : rest = [] := last
    obtain ⟨more, chronicled, told⟩ := cleanupExpired_retells holds chronicled moment.players (finds now rfl)
    refine ⟨more, chronicled, ?_, ?_⟩
    · show pending ((before.manager.cleanupExpired moment.players now).1.flatten.flatMap
        GatewayProcess.settleTasks ++ before.agenda) = _
      rw [agenda, List.append_nil, told]
      rfl
    · show LastExpires (_ ++ before.agenda)
      rw [agenda]
      refine LastExpires.push trivial ?_
      intro task member
      obtain ⟨entry, _, settled⟩ := List.mem_flatMap.mp member
      obtain rfl | rfl : _ ∨ _ := by simpa [GatewayProcess.settleTasks] using settled
      · rfl
      · rfl

end Calls

/-! ## Steps and runs -/

/-- A clean-up begins, and the player has been offline in the room for five minutes. -/
def Taken.FindsAway (taken : Taken ρ) (roomId : RoomId) (player : PlayerId) : Prop :=
  taken.event = .next ∧ ∃ now, taken.before.agenda.head? = some (.cleanupExpired now) ∧
    taken.before.manager.Away now roomId player

/-- Some clean-up has found the player away from the room. -/
def FoundAway (trace : List (Taken ρ)) (roomId : RoomId) (player : PlayerId) : Prop :=
  ∃ taken ∈ trace, taken.FindsAway roomId player

theorem step_handsOn {taken : Taken ρ} {log : List GameEvent} (holds : ManagerInv taken.before.manager)
    (chronicled : Chronicled gone log taken.before.manager) (last : LastExpires taken.before.agenda)
    (finds : ∀ roomId player, taken.FindsAway roomId player → gone roomId player)
    (done : taken.before.step shuffler protobuf taken.event taken.moment = .ok (taken.notes, taken.after)) :
    HandsOn gone log taken.before.agenda taken.notes taken.after := by
  obtain ⟨before, event, moment, notes, after⟩ := taken
  dsimp only at holds chronicled last done ⊢
  have moves := step_moves shuffler protobuf holds event moment
  simp only [GatewayProcess.step] at done moves
  cases agenda : before.agenda with
  | nil =>
    simp only [agenda] at done moves
    obtain ⟨⟨more, later, told⟩, lastly⟩ := handle_unfolds done agenda holds gone log chronicled
    -- nothing is handed over before a call of the agenda does
    have silent : delivered notes = [] := by
      obtain ⟨_, _, same, _, move⟩ := moves
      rw [done] at same
      cases same
      cases move with
      | handed handing => simp [Handing, agenda] at handing
      | _ => rfl
    exact ⟨more, later, by rw [silent, told]; rfl, lastly⟩
  | cons task rest =>
    simp only [agenda] at done
    rw [agenda] at last
    split at done
    · refine perform_handsOn done holds chronicled last rfl ?_
      rintro now rfl roomId player away
      exact finds roomId player ⟨rfl, now, by rw [agenda, List.head?_cons], away⟩
    · cases done
      exact .nothing chronicled (by rw [agenda]; rfl) (agenda ▸ last)

/-- Whatever comes in, and in whatever order: what is handed to the notifier, room states
    aside, and what the running handler has left of it, are the letters of one log, and of
    every room the log tells a game by the rules, up to where the room stands.  A game that
    nobody has won is settled only against a player whom a clean-up finds away. -/
theorem players_told_the_game (shuffler : Shuffler ρ) (protobuf : Protobuf) (random : ρ)
    (inputs : List (Event × Moment)) :
    ∃ trace finish log, ({ manager := { random } } : GatewayProcess ρ).run shuffler protobuf inputs =
        .ok (trace, finish) ∧
      Chronicled (FoundAway trace) log finish.manager ∧
      trace.flatMap (fun taken => delivered taken.notes) ++ pending finish.agenda =
        log.flatMap GameEvent.letters := by
  obtain ⟨trace, finish, ran, run⟩ := gateway_runs shuffler protobuf random inputs
  suffices ManagerInv finish.manager ∧ ∃ log, Chronicled (FoundAway trace) log finish.manager ∧
      trace.flatMap (fun taken => delivered taken.notes) ++ pending finish.agenda =
        log.flatMap GameEvent.letters ∧ LastExpires finish.agenda by
    obtain ⟨_, log, chronicled, told, _⟩ := this
    exact ⟨trace, finish, log, ran, chronicled, told⟩
  refine run.history (fun trace (gateway : GatewayProcess ρ) =>
    ManagerInv gateway.manager ∧ ∃ log, Chronicled (FoundAway trace) log gateway.manager ∧
      trace.flatMap (fun taken => delivered taken.notes) ++ pending gateway.agenda =
        log.flatMap GameEvent.letters ∧ LastExpires gateway.agenda)
    ⟨managerInv_empty random, [], chronicled_empty random, rfl, trivial⟩ ?_
  intro trace before taken after _ ⟨holds, log, chronicled, told, last⟩ step
  obtain ⟨sound, _⟩ := step.moves holds
  obtain ⟨rfl, rfl, done⟩ := step
  have earlier : Chronicled (FoundAway (trace ++ [taken])) log taken.before.manager :=
    chronicled.mono fun _ _ ⟨found, member, away⟩ => ⟨found, List.mem_append_left _ member, away⟩
  obtain ⟨more, later, handed, lastly⟩ := step_handsOn holds earlier last
    (fun _ _ away => ⟨taken, List.mem_append_right _ (List.mem_singleton_self taken), away⟩) done
  refine ⟨sound, log ++ more, later, ?_, lastly⟩
  rw [List.flatMap_append, List.flatMap_singleton, List.append_assoc, handed, ← List.append_assoc,
    told, List.flatMap_append]

end Doudizhu.Gateway
