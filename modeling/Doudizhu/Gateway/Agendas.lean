import Doudizhu.Gateway.Flows
import Doudizhu.Lib.Agenda

/-! # Handlers end

Whatever the clocks say while it runs, a handler ends: a call leaves calls of a lower rank
only, except `close`, which then has one session less to close.
-/

namespace Doudizhu.Gateway

open Game

variable {ρ : Type} {shuffler : Shuffler ρ} {protobuf : Protobuf}

/-- A call leaves calls of lower ranks. -/
def Task.rank : Task → Nat
  | .close _ | .finishClose _ | .postSettle _ | .cleanupIdle _ => 0
  | .sendPacket _ _ => 1
  | .notify _ _ => 2
  | .notifyRoomState _ | .cleanupExpired _ => 3

/-- The sessions that can still be closed. -/
def GatewayProcess.unclosed (gateway : GatewayProcess ρ) : Nat :=
  gateway.sessions.countP fun session => !session.closed

theorem countP_modify_same {α : Type} {holds : α → Bool} {change : α → α}
    (same : ∀ item, holds (change item) = holds item) (items : List α) (place : Nat) :
    (items.modify place change).countP holds = items.countP holds := by
  induction items generalizing place with
  | nil => rw [List.modify_nil]
  | cons item items inductionHypothesis =>
    cases place with
    | zero => simp [List.countP_cons, same]
    | succ place => simp [List.countP_cons, inductionHypothesis]

theorem countP_modify_lower {α : Type} {holds : α → Bool} {change : α → α}
    (none : ∀ item, holds (change item) = false) {items : List α} {place : Nat} {item : α}
    (found : items[place]? = some item) (held : holds item) :
    (items.modify place change).countP holds < items.countP holds := by
  induction items generalizing place with
  | nil => cases found
  | cons first items inductionHypothesis =>
    cases place with
    | zero =>
      cases found
      simp [none, held]
    | succ place =>
      have lower := inductionHypothesis found
      simp only [List.modify_succ_cons, List.countP_cons]
      omega

section Ends

variable {before after : GatewayProcess ρ} {moment : Moment} {notes : List Note} {task : Task}
  {rest tasks : List Task}

/-- The step takes the next call of a handler, and leaves less to do. -/
abbrev Shorter (after before : GatewayProcess ρ) : Prop :=
  Agenda.Lowers GatewayProcess.unclosed Task.rank GatewayProcess.agenda after before

theorem shorter_calls (agenda : before.agenda = task :: rest) (left : after.agenda = tasks ++ rest)
    (unclosed : after.unclosed = before.unclosed) (lower : ∀ added ∈ tasks, added.rank < task.rank) :
    Shorter after before :=
  .inr ⟨unclosed, task, rest, tasks, agenda, left, lower⟩

theorem shorter_nothing (agenda : before.agenda = task :: rest) (left : after.agenda = rest)
    (unclosed : after.unclosed = before.unclosed) : Shorter after before :=
  shorter_calls agenda (left.trans (List.nil_append _).symm) unclosed nofun

theorem perform_shorter (agenda : before.agenda = task :: rest)
    (done : ({ before with agenda := rest } : GatewayProcess ρ).perform protobuf moment task =
      .ok (notes, after)) : Shorter after before := by
  have closes : ∀ {id : SessionId} {session : Session}, before.sessions[id]? = some session →
      session.closed = false → after.sessions = (before.update id fun session =>
        { session with closed := true, heartbeatArmed := false }).sessions → Shorter after before := by
    intro id session found opened placed
    left
    rw [GatewayProcess.unclosed, placed]
    exact countP_modify_lower (fun _ => rfl) found (by rw [opened]; rfl)
  cases perform_cases done with
  | nothing | finished | posted | cleanedIdle => exact shorter_nothing agenda rfl rfl
  | oversized => exact shorter_calls agenda rfl rfl (by simp [Task.rank])
  | enqueued =>
    refine shorter_nothing agenda rfl ?_
    exact countP_modify_same (fun session => by rw [Session.enqueue_eq]) before.sessions _
  -- whatever it leaves to do, there is one session less to close
  | closed found opened | closing found opened => exact closes found opened rfl
  | handed kind =>
    obtain rfl | rfl := kind <;> exact shorter_calls agenda rfl rfl (by simp [Task.rank])
  | cleanedExpired =>
    refine shorter_calls agenda rfl rfl ?_
    intro added member
    obtain ⟨entry, _, member⟩ := List.mem_flatMap.mp member
    -- a settlement is notified and posted
    obtain rfl | rfl : added = _ ∨ added = _ := by
      simpa only [GatewayProcess.settleTasks, List.mem_cons, List.not_mem_nil, or_false] using member
    · simp [Task.rank]
    · simp [Task.rank]

/-- Whatever the clocks say, the running handler ends. -/
theorem handler_ends (shuffler : Shuffler ρ) (protobuf : Protobuf) {gateway : GatewayProcess ρ}
    (sound : ManagerInv gateway.manager) (moments : Nat → Moment) :
    ∃ count trace finish, gateway.run shuffler protobuf
        ((List.range count).map fun index => (.next, moments index)) = .ok (trace, finish) ∧
      finish.agenda = [] := by
  induction gateway using (@Agenda.wellFounded_lowers _ _ GatewayProcess.unclosed Task.rank
    (@GatewayProcess.agenda ρ)).induction generalizing moments with
  | h gateway inductionHypothesis =>
    cases agenda : gateway.agenda with
    | nil => exact ⟨0, [], gateway, rfl, agenda⟩
    | cons task rest =>
      obtain ⟨notes, next, done, kept, _⟩ := step_moves shuffler protobuf sound .next (moments 0)
      have performed := done
      simp only [GatewayProcess.step, agenda] at performed
      obtain ⟨count, trace, finish, ran, idle⟩ := inductionHypothesis next
        (perform_shorter agenda performed) kept fun index => moments (index + 1)
      refine ⟨count + 1, ⟨gateway, .next, moments 0, notes, next⟩ :: trace, finish, ?_, idle⟩
      rw [List.range_succ_eq_map, List.map_cons, List.map_map]
      simp only [GatewayProcess.run, done, bind, Except.bind, Function.comp_def, Nat.succ_eq_add_one, ran]

end Ends

end Doudizhu.Gateway
