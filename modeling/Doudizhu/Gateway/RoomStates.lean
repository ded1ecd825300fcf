import Doudizhu.Gateway.Agreement

/-! # Room states

What a room state shows: the seat and the hand of the player it was read for.  Every path
of the gateway but one reads it for the player it is sent to; a session that closes in a
game sends its own player's to all three.
-/

namespace Doudizhu.Gateway

open Game

variable {ρ : Type} {shuffler : Shuffler ρ} {protobuf : Protobuf}

/-- The message shows the seat and the hand that the player has in a game. -/
def RoomManager.ShowsOwn (manager : RoomManager ρ) (player : PlayerId) (state : S2CRoomState) : Prop :=
  ∃ room round seat hand, manager.seatedRound player = some (room, round, seat) ∧
    state.selfSeat = seat ∧ round.hand seat = .ok hand ∧
    state.ownCards = hand.map CardCodec.encode

theorem roomState_own {manager : RoomManager ρ} {now : Time} {player : PlayerId} {state : RoomState}
    (read : manager.roomState now player = .ok (some state)) :
    manager.ShowsOwn player (encodeRoomState state) := by
  unfold RoomManager.roomState at read
  split at read
  · cases read
  · next room round seat seated =>
    obtain ⟨_, _, read⟩ := ExceptLoop.bind_ok.mp read
    obtain ⟨_, _, read⟩ := ExceptLoop.bind_ok.mp read
    obtain ⟨hand, dealt, read⟩ := ExceptLoop.bind_ok.mp read
    cases read
    exact ⟨room, round, seat, hand, seated, rfl, dealt, rfl⟩

/-! ## Snapshots -/

/-- A call that hands out a room state that was read before. -/
def Task.snapshot : Task → Bool
  | .notify _ (.roomState _) => true
  | _ => false

theorem snapshot_of_plain {task : Task} (plain : task.plain) : task.snapshot = false := by
  cases task with
  | notify player message =>
    cases message with
    | roomState state => cases plain
    | _ => rfl
  | _ => rfl

def GatewayProcess.NoSnapshots (gateway : GatewayProcess ρ) : Prop :=
  ∀ task ∈ gateway.agenda, task.snapshot = false

theorem noSnapshots_of {gateway : GatewayProcess ρ} (clean : gateway.NoSnapshots)
    (tasks : List Task) {agenda : List Task} (new : ∀ task ∈ tasks, task.snapshot = false)
    (after : agenda = tasks ++ gateway.agenda.tail) : ∀ task ∈ agenda, task.snapshot = false := by
  intro task member
  rw [after] at member
  obtain added | old := List.mem_append.mp member
  · exact new task added
  · exact clean task (List.mem_of_mem_tail old)

/-- Only a session that closes in a game takes a snapshot. -/
theorem noSnapshots_move {taken : Taken ρ} (clean : taken.before.NoSnapshots)
    (move : GatewayMove taken.before taken.event taken.notes taken.after)
    (unseated : taken.ClosesUnseated) : taken.after.NoSnapshots := by
  obtain ⟨before, event, moment, notes, after⟩ := taken
  simp only at clean move
  have told : ∀ {tasks : List Task}, (∀ task ∈ tasks, task.plain) →
      ∀ task ∈ tasks, task.snapshot = false :=
    fun plain task member => snapshot_of_plain (plain task member)
  cases move with
  | stalled => exact clean
  | other _ _ agenda plain => exact noSnapshots_of clean _ (told plain) agenda
  | opened _ _ _ _ _ agenda =>
    intro task member
    rw [agenda] at member
    cases member
  | handed _ _ _ agenda =>
    refine noSnapshots_of clean _ ?_ agenda
    intro task member
    obtain ⟨_, _, rfl⟩ := List.mem_map.mp member
    rfl
  | acted _ _ _ _ _ _ _ agenda plain => exact noSnapshots_of clean _ (told plain) agenda
  | loggedIn _ _ _ _ _ _ _ agenda plain => exact noSnapshots_of clean _ (told plain) agenda
  | closed _ _ _ _ _ _ _ _ agenda => exact noSnapshots_of clean _ (told plain_nil) agenda
  | closing tasks kind head present opened current _ _ _ agenda _ alone =>
    obtain ⟨session, rfl, closes⟩ :=
      closes_of_face ⟨before, event, moment, _, after⟩ kind head present opened
    rw [alone (unseated session closes current), List.nil_append] at agenda
    exact noSnapshots_of clean [.finishClose _] (by simp [Task.snapshot]) agenda
  | finished _ _ _ _ _ agenda => exact noSnapshots_of clean _ (told plain_nil) agenda
  | cleaned _ _ _ _ _ _ _ agenda plain => exact noSnapshots_of clean _ (told plain) agenda

/-- Without snapshots, the room state that is handed out was read for its receiver, now. -/
theorem handed_own {before after : GatewayProcess ρ} {event : Event} {notes : List Note}
    (clean : before.NoSnapshots) (move : GatewayMove before event notes after) {player : PlayerId}
    {state : S2CRoomState} {receiver : Option SessionId}
    (handed : .handed player (.roomState state) receiver ∈ notes) :
    before.manager.ShowsOwn player state := by
  cases move with
  | handed handing =>
    simp only [List.mem_singleton, Note.handed.injEq] at handed
    obtain ⟨rfl, rfl, rfl⟩ := handed
    obtain snapshot | ⟨_, now, read, found, same⟩ := handing
    · have stale := clean _ (List.mem_of_mem_head? snapshot)
      cases stale
    · cases same
      exact roomState_own found
  | acted | loggedIn => simp at handed
  | _ => cases handed

/-! ## Runs -/

theorem noSnapshots_run {random : ρ} {trace : List (Taken ρ)} {finish : GatewayProcess ρ}
    (run : Transition.Steps (GatewayStep shuffler protobuf) { manager := { random } } trace finish)
    (unseated : ∀ taken ∈ trace, taken.ClosesUnseated) : finish.NoSnapshots := by
  suffices ManagerInv finish.manager ∧
      ((∀ taken ∈ trace, taken.ClosesUnseated) → finish.NoSnapshots) from this.2 unseated
  refine gateway_history (fun trace gateway =>
    (∀ taken ∈ trace, taken.ClosesUnseated) → gateway.NoSnapshots) run
    (fun _ => by simp [GatewayProcess.NoSnapshots]) ?_
  rintro trace before taken rfl holds move
  simp only [List.forall_mem_append, List.forall_mem_singleton]
  rintro ⟨unseated, last⟩
  exact noSnapshots_move (holds unseated) move last

/-- Whatever comes in, and in whatever order, as long as no session closes while its player
    sits in a game: every room state that is handed to the notifier for a player shows the
    player's own seat, and the hand that the player has then. -/
theorem room_states_own (shuffler : Shuffler ρ) (protobuf : Protobuf) (random : ρ)
    (inputs : List (Event × Moment)) :
    ∃ trace finish, ({ manager := { random } } : GatewayProcess ρ).run shuffler protobuf inputs =
        .ok (trace, finish) ∧
      ((∀ taken ∈ trace, taken.ClosesUnseated) →
        ∀ taken ∈ trace, ∀ player state receiver,
          .handed player (.roomState state) receiver ∈ taken.notes →
          taken.before.manager.ShowsOwn player state) := by
  obtain ⟨trace, finish, ran, run⟩ := gateway_runs shuffler protobuf random inputs
  refine ⟨trace, finish, ran, ?_⟩
  intro unseated taken member player state receiver handed
  obtain ⟨earlier, later, rfl⟩ := List.append_of_mem member
  obtain ⟨before, after, run, step, _⟩ := run.split_cons
  have clean := noSnapshots_run run fun other inside =>
    unseated other (List.mem_append_left _ inside)
  obtain ⟨_, move⟩ := step.moves (tokenInv_run run).1
  rw [step.1]
  exact handed_own clean move handed

/-! ## A player who leaves the game -/

def logsIn (session : SessionId) (player : PlayerId) : List Event :=
  loginArrives session player ++ loginAnswered player ++ [.next, .written session true]

/-- Three players log in and are matched; the socket of the first one fails. -/
def leavesTheGame : List (Event × Moment) :=
  atOnce ([.accepted .tcp, .accepted .tcp, .accepted .tcp] ++
    logsIn 0 "ann" ++ logsIn 1 "bob" ++ logsIn 2 "cat" ++
    packetArrives 0 .c2sQuickMatch [] ++ [.next, .written 0 true] ++
    packetArrives 1 .c2sQuickMatch [] ++ [.next, .written 1 true] ++
    packetArrives 2 .c2sQuickMatch [] ++ List.replicate 13 .next ++
    [.heartbeatExpired 0] ++ List.replicate 8 .next)

/-- The message shows the player cards that are not the player's. -/
def RoomManager.showsOthers (manager : RoomManager ρ) (player : PlayerId) (state : S2CRoomState) : Bool :=
  match manager.seatedRound player with
  | none => false
  | some (_, round, seat) =>
    match round.hand seat with
    | .error _ => false
    | .ok hand => state.ownCards != hand.map CardCodec.encode

theorem RoomManager.not_showsOwn {manager : RoomManager ρ} {player : PlayerId} {state : S2CRoomState}
    (others : manager.showsOthers player state) : ¬ manager.ShowsOwn player state := by
  rintro ⟨room, round, seat, hand, seated, _, dealt, own⟩
  simp [RoomManager.showsOthers, seated, dealt, own] at others

/-- A room state with the cards of another player is handed out for a player. -/
def Taken.leaks (taken : Taken ρ) : Bool :=
  taken.notes.any fun
    | .handed player (.roomState state) _ => taken.before.manager.showsOthers player state
    | _ => false

theorem Taken.of_leaks {taken : Taken ρ} (leaks : taken.leaks) :
    ∃ player state receiver, .handed player (.roomState state) receiver ∈ taken.notes ∧
      ¬ taken.before.manager.ShowsOwn player state := by
  obtain ⟨note, member, others⟩ := List.any_eq_true.mp leaks
  split at others
  · exact ⟨_, _, _, member, RoomManager.not_showsOwn others⟩
  · cases others

/-- The two who stay are shown the hand of the one who leaves. -/
theorem leaver_shown : ∃ trace finish,
    ({ manager := { random := () } } : GatewayProcess Unit).run .identity WireFormat.generated
      leavesTheGame = .ok (trace, finish) ∧
    ∃ taken ∈ trace, ∃ player state receiver,
      .handed player (.roomState state) receiver ∈ taken.notes ∧
      ¬ taken.before.manager.ShowsOwn player state := by
  obtain ⟨⟨trace, finish⟩, ran, passes⟩ := ExceptLoop.exists_of_test
    (show ExceptLoop.test (fun (trace, _) => trace.any Taken.leaks)
      (({ manager := { random := () } } : GatewayProcess Unit).run .identity WireFormat.generated
        leavesTheGame) = true by
    decide +kernel)
  obtain ⟨taken, member, leaks⟩ := List.any_eq_true.mp passes
  exact ⟨trace, finish, ran, taken, member, taken.of_leaks leaks⟩

end Doudizhu.Gateway
