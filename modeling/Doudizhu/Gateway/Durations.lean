import Doudizhu.Gateway.PlayClocks
import Doudizhu.Gateway.Handlers
import Doudizhu.Gateway.RoomStates

/-! # Durations of settlements

The backend refuses a settlement with a negative duration.  A step of the gateway makes one
call on the rooms at most, with the clocks of its moment, and what the call settles goes
over the agenda to the backend (`step_asks`).  So durations are not negative as long as the
clocks of one step are not older than the plays it ends; the clean-up alone comes with a
clock that was read in an earlier step.
-/

namespace Doudizhu.Gateway

open Game

variable {ρ : Type} {shuffler : Shuffler ρ} {protobuf : Protobuf}

/-! ## Settlements on their way -/

/-- The settlement is on its way to the backend. -/
def GatewayProcess.Settling (gateway : GatewayProcess ρ) (entry : SettlementEntry) : Prop :=
  .postSettle entry ∈ gateway.agenda ∨ .settle entry ∈ gateway.jobs

theorem settling_push {gateway : GatewayProcess ρ} {tasks : List Task} {entry : SettlementEntry} :
    (gateway.push tasks).Settling entry ↔ .postSettle entry ∈ tasks ∨ gateway.Settling entry := by
  simp only [GatewayProcess.Settling, GatewayProcess.push, List.mem_append, or_assoc]

section Tasks

variable (entry : SettlementEntry)

theorem postSettle_tellAll (players : List PlayerId) (message : ServerMessage) :
    .postSettle entry ∉ GatewayProcess.tellAll players message := by
  simp [GatewayProcess.tellAll]

theorem postSettle_settleTasks (entries : List SettlementEntry) :
    .postSettle entry ∈ entries.flatMap GatewayProcess.settleTasks ↔ entry ∈ entries := by
  simp [GatewayProcess.settleTasks]

theorem postSettle_timeoutTasks {actions : List TimeoutAction}
    (posted : .postSettle entry ∈ actions.flatMap GatewayProcess.timeoutTasks) :
    ∃ batch ∈ (RoomAnswer.timeouts actions).batches, entry ∈ batch := by
  obtain ⟨action, member, posted⟩ := List.mem_flatMap.mp posted
  obtain told | settled := List.mem_append.mp posted
  · exact absurd told (postSettle_tellAll _ _ _)
  · rw [postSettle_settleTasks] at settled
    refine ⟨action.settlements, List.mem_filter.mpr ⟨List.mem_map_of_mem member, ?_⟩, settled⟩
    simpa using List.ne_nil_of_mem settled

end Tasks

/-! ## Calls on the rooms -/

/-- The clocks of the operation are readings of the step. -/
structure RoomOp.ReadIn (op : RoomOp) (moment : Moment) : Prop where
  play : ∀ roomId, ∀ reading ∈ op.playClock roomId,
    reading = moment.startedAt ∨ reading = moment.now ∨ reading = moment.roomStartedAt roomId
  ends : ∀ reading ∈ op.endClock, reading = moment.now ∨ reading = moment.endedAt

/-- What a step asks of the rooms, and what it settles. -/
inductive Asks (shuffler : Shuffler ρ) (moment : Moment) (before after : GatewayProcess ρ) : Prop where
  | nothing :
      after.manager = before.manager → (∀ entry, after.Settling entry → before.Settling entry) →
      Asks shuffler moment before after
  | operation {op : RoomOp} {answer : RoomAnswer} :
      op.exec shuffler before.manager = .ok (answer, after.manager) → op.ReadIn moment →
      (∀ entry, after.Settling entry → (∃ batch ∈ answer.batches, entry ∈ batch) ∨ before.Settling entry) →
      Asks shuffler moment before after

section Handlers

variable {base after : GatewayProcess ρ} {moment : Moment} {id : SessionId} {player : PlayerId}

theorem asks_push {op : RoomOp} {answer : RoomAnswer} {manager : RoomManager ρ} {tasks : List Task}
    (done : op.exec shuffler base.manager = .ok (answer, manager)) (reads : op.ReadIn moment)
    (settled : ∀ entry, .postSettle entry ∈ tasks → ∃ batch ∈ answer.batches, entry ∈ batch) :
    Asks shuffler moment base (({ base with manager } : GatewayProcess ρ).push tasks) :=
  .operation done reads fun entry settling => (settling_push.mp settling).imp_left (settled entry)

theorem askedBy_reads {op : RoomOp} (asked : op.AskedBy player moment) : op.ReadIn moment := by
  cases asked <;> exact ⟨by simp [RoomOp.playClock], by simp [RoomOp.endClock]⟩

theorem served_asks {session : Session} (served : Served shuffler base moment id session after) :
    Asks shuffler moment base after := by
  cases served with
  | closed | answered =>
    exact .nothing rfl fun entry settling => (settling_push.mp settling).resolve_left (by simp)
  | login requested =>
    refine .nothing rfl fun entry settling => ?_
    simpa [GatewayProcess.Settling, GatewayProcess.post] using settling
  | refused asked done => exact asks_push done (askedBy_reads asked) (by simp)
  | asked placed asked done follows =>
    exact asks_push done (askedBy_reads asked) fun entry posted => follows _ posted

theorem asks_reads : ReadRule shuffler moment id (@Asks ρ shuffler moment) where
  update asks := by
    cases asks with
    | nothing manager settling => exact .nothing manager settling
    | operation done reads settling => exact .operation done reads settling
  still _ := .nothing rfl fun _ settling => settling
  served := served_asks

end Handlers

/-! ## Steps -/

section Steps

variable {before after : GatewayProcess ρ} {moment : Moment} {notes : List Note}

theorem completeLogin_asks {completion : LoginCompletion}
    (done : before.completeLogin moment completion = .ok (notes, after)) :
    Asks shuffler moment before after := by
  cases completeLogin_cases done with
  | refused =>
    exact .nothing rfl fun entry settling => (settling_push.mp settling).resolve_left (by simp)
  | accepted =>
    have asked : (RoomOp.markOnline completion.result.playerId).exec shuffler before.manager =
        .ok (.done, before.manager.markOnline completion.result.playerId) := rfl
    refine .operation asked ⟨by simp [RoomOp.playClock], by simp [RoomOp.endClock]⟩ ?_
    exact fun entry settling => .inr ((settling_push.mp settling).resolve_left (by simp))

theorem handle_asks {event : Event}
    (done : before.handle shuffler protobuf moment event = .ok (notes, after)) :
    Asks shuffler moment before after := by
  have happened := handle_cases shuffler protobuf before moment event
  generalize before.handle shuffler protobuf moment event = outcome at done happened
  cases happened with
  | nothing | accepted | shaken | written =>
    cases done
    exact .nothing rfl fun _ settling => settling
  | unshaken | unwritten | expired =>
    cases done
    exact .nothing rfl fun entry settling => (settling_push.mp settling).resolve_left (by simp)
  | headerRead => exact asks_reads.headerRead done
  | bodyRead => exact asks_reads.bodyRead done
  | frameRead => exact asks_reads.frameRead done
  | returned =>
    cases done
    exact .nothing rfl fun entry => Or.imp_right List.mem_of_mem_eraseIdx
  | @loginCompleted index completion found =>
    have completed : Asks shuffler moment
        ({ before with completions := before.completions.eraseIdx index } : GatewayProcess ρ) after :=
      completeLogin_asks done
    cases completed with
    | nothing manager settling => exact .nothing manager settling
    | operation asked reads settling => exact .operation asked reads settling
  | cleanup =>
    obtain ⟨⟨actions, manager⟩, timedOut, done⟩ := ExceptLoop.bind_ok.mp done
    cases done
    have asked : (RoomOp.timeoutExpired moment.rooms moment.now moment.roomStartedAt).exec shuffler
        before.manager = .ok (.timeouts actions, manager) := ExceptLoop.bind_ok.mpr ⟨_, timedOut, rfl⟩
    refine asks_push asked ⟨by simp [RoomOp.playClock], by simp [RoomOp.endClock]⟩ ?_
    intro entry posted
    obtain settled | clean := List.mem_append.mp posted
    · exact postSettle_timeoutTasks entry settled
    · simp at clean

/-- The clean-up with its clock, which an earlier step read. -/
structure CleansUpAt (before : GatewayProcess ρ) (event : Event) (moment : Moment) (now : Time)
    (after : GatewayProcess ρ) : Prop where
  due : event = .next ∧ before.agenda.head? = some (.cleanupExpired now)
  manager : after.manager = (before.manager.cleanupExpired moment.players now).2
  settling : ∀ entry, after.Settling entry ↔
    (∃ batch ∈ (before.manager.cleanupExpired moment.players now).1, entry ∈ batch) ∨
      before.Settling entry

theorem perform_asks {task : Task} {rest : List Task} (agenda : before.agenda = task :: rest)
    (other : ∀ now, task ≠ .cleanupExpired now)
    (done : ({ before with agenda := rest } : GatewayProcess ρ).perform protobuf moment task =
      .ok (notes, after)) : Asks shuffler moment before after := by
  have left : ∀ entry, ({ before with agenda := rest } : GatewayProcess ρ).Settling entry →
      before.Settling entry := by
    intro entry
    rw [GatewayProcess.Settling, GatewayProcess.Settling, agenda]
    exact Or.imp_left (List.mem_cons_of_mem _)
  cases perform_cases done with
  | nothing | enqueued | closed => exact .nothing rfl left
  | oversized | handed =>
    exact .nothing rfl fun entry settling => left entry ((settling_push.mp settling).resolve_left (by simp))
  | @closing id session tasks _ _ told =>
    have asked : (RoomOp.markOffline session.playerId moment.now).exec shuffler before.manager =
        .ok (.done, before.manager.markOffline session.playerId moment.now) := rfl
    refine .operation asked ⟨by simp [RoomOp.playClock], by simp [RoomOp.endClock]⟩ ?_
    intro entry settling
    refine .inr (left entry ((settling_push.mp settling).resolve_left ?_))
    rw [List.mem_append, not_or]
    refine ⟨fun posted => ?_, by simp⟩
    obtain ⟨player, state, same⟩ := told _ posted
    cases same
  | finished =>
    refine .nothing rfl fun entry settling => left entry ?_
    simpa [GatewayProcess.Settling, GatewayProcess.post] using settling
  | @posted entry =>
    refine .nothing rfl fun other settling => ?_
    obtain earlier | posted := settling
    · exact left other (.inl earlier)
    · obtain running | new := List.mem_append.mp posted
      · exact .inr running
      · cases List.mem_singleton.mp new
        exact .inl (agenda ▸ List.mem_cons_self)
  | @cleanedIdle now =>
    have asked : (RoomOp.cleanupIdle moment.rooms now).exec shuffler before.manager =
        .ok (.done, before.manager.cleanupIdle moment.rooms now) := rfl
    exact .operation asked ⟨by simp [RoomOp.playClock], by simp [RoomOp.endClock]⟩
      fun entry settling => .inr (left entry settling)
  | @cleanedExpired now => exact absurd rfl (other now)

/-- A step is the clean-up, or it asks the rooms with clocks of its own. -/
theorem step_asks {event : Event}
    (done : before.step shuffler protobuf event moment = .ok (notes, after)) :
    (∃ now, CleansUpAt before event moment now after) ∨
      ((∀ now, ¬ (event = .next ∧ before.agenda.head? = some (.cleanupExpired now))) ∧
        Asks shuffler moment before after) := by
  cases agenda : before.agenda with
  | nil =>
    simp only [GatewayProcess.step, agenda] at done
    exact .inr ⟨by simp, handle_asks done⟩
  | cons task rest =>
    simp only [GatewayProcess.step, agenda] at done
    split at done
    · cases task with
      | cleanupExpired now =>
        cases done
        refine .inl ⟨now, ⟨rfl, by rw [agenda, List.head?_cons]⟩, rfl, fun entry => ?_⟩
        rw [settling_push, postSettle_settleTasks, List.mem_flatten]
        simp only [GatewayProcess.Settling, agenda, List.mem_cons, reduceCtorEq, false_or]
        rfl
      | _ => exact .inr ⟨by simp, perform_asks agenda (by simp) done⟩
    · next other =>
      cases done
      exact .inr ⟨fun _ due => other due.1, .nothing rfl fun _ settling => settling⟩

end Steps

/-! ## Clocks that do not go back -/

/-- The clocks of a step, read one after another. -/
structure Moment.Steady (moment : Moment) : Prop where
  started : moment.packetAt ≤ moment.startedAt
  now : moment.startedAt ≤ moment.now
  ended : moment.now ≤ moment.endedAt
  rooms : ∀ roomId, moment.now ≤ moment.roomStartedAt roomId

structure Moment.Before (earlier later : Moment) : Prop where
  ended : earlier.endedAt ≤ later.packetAt
  rooms : ∀ roomId, earlier.roomStartedAt roomId ≤ later.packetAt

/-- No reading of the clock is older than the one before it. -/
def Ascending (inputs : List (Event × Moment)) : Prop :=
  (∀ input ∈ inputs, input.2.Steady) ∧ inputs.Pairwise fun earlier later => earlier.2.Before later.2

/-- Settlements that the backend does not refuse for their duration. -/
def GatewayProcess.Durable (gateway : GatewayProcess ρ) : Prop :=
  ∀ entry, gateway.Settling entry → 0 ≤ entry.durationSeconds

/-- If the step is the clean-up, nobody has expired in a room whose play starts a second or
    more after its clock. -/
def Taken.CleansInTime (taken : Taken ρ) : Prop :=
  ∀ now, taken.event = .next ∧ taken.before.agenda.head? = some (.cleanupExpired now) →
    taken.before.manager.ExpiresInTime now

/-- Plays have started before the inputs come, and nothing negative is on its way. -/
structure OnTime (gateway : GatewayProcess ρ) (inputs : List (Event × Moment)) : Prop where
  sound : ManagerInv gateway.manager
  started : ∀ input ∈ inputs, gateway.manager.StartedBy input.2.packetAt
  durable : gateway.Durable

section Clocks

variable {gateway next : GatewayProcess ρ} {event : Event} {moment : Moment} {notes : List Note}
  {inputs : List (Event × Moment)}

/-- A step settles nothing negative exactly if its clean-up is in time. -/
theorem step_durable_iff (holds : OnTime gateway ((event, moment) :: inputs)) (steady : moment.Steady)
    (done : gateway.step shuffler protobuf event moment = .ok (notes, next)) :
    next.Durable ↔ Taken.CleansInTime ⟨gateway, event, moment, notes, next⟩ := by
  have started : gateway.manager.StartedBy moment.now := by
    intro roomId time given
    have before := holds.started _ List.mem_cons_self roomId time given
    exact before.trans (steady.started.trans steady.now)
  obtain ⟨now, due, _, settling⟩ | ⟨other, asks⟩ := step_asks done
  · have onlyOne : ∀ time, gateway.agenda.head? = some (.cleanupExpired time) → time = now := by
      intro time same
      rw [due.2] at same
      cases same
      rfl
    constructor
    · intro durable time cleans
      obtain rfl := onlyOne time cleans.2
      rw [← cleanupExpired_nonneg_iff shuffler holds.sound moment.players]
      exact fun batch given entry member => durable entry ((settling entry).mpr (.inl ⟨batch, given, member⟩))
    · intro inTime entry bound
      obtain ⟨batch, given, member⟩ | earlier := (settling entry).mp bound
      · have expires := inTime now due
        rw [← cleanupExpired_nonneg_iff shuffler holds.sound moment.players] at expires
        exact expires batch given entry member
      · exact holds.durable entry earlier
  · refine iff_of_true ?_ fun time due => absurd due (other time)
    intro entry bound
    cases asks with
    | nothing _ settling => exact holds.durable entry (settling entry bound)
    | operation asked reads settling =>
      obtain ⟨batch, given, member⟩ | earlier := settling entry bound
      · obtain ⟨roomId, time, ends, duration⟩ := exec_durations holds.sound asked given member
        rw [duration]
        obtain rfl | rfl := reads.ends time ends
        · exact started.nonneg le_rfl roomId
        · exact started.nonneg steady.ended roomId
      · exact holds.durable entry earlier

/-- After a step, plays have started before the inputs that are left. -/
theorem step_started (holds : OnTime gateway ((event, moment) :: inputs)) (steady : moment.Steady)
    (before : ∀ input ∈ inputs, moment.Before input.2)
    (done : gateway.step shuffler protobuf event moment = .ok (notes, next)) :
    ∀ input ∈ inputs, next.manager.StartedBy input.2.packetAt := by
  intro input member
  have still := holds.started input (List.mem_cons_of_mem _ member)
  have later := before input member
  obtain ⟨now, _, manager, _⟩ | ⟨_, asks⟩ := step_asks done
  · have fewer : PlayStarts (fun _ => none) gateway.manager next.manager := by
      rw [manager]
      exact starts_of_fewer fun _ _ => cleanupExpired_rooms moment.players now
    exact fewer.startedBy still le_rfl (by simp)
  · cases asks with
    | nothing manager => rwa [manager]
    | operation asked reads =>
      refine (exec_starts holds.sound asked).startedBy still le_rfl fun roomId reading given => ?_
      obtain rfl | rfl | rfl := reads.play roomId reading given
      · exact steady.now.trans (steady.ended.trans later.ended)
      · exact steady.ended.trans later.ended
      · exact later.rooms roomId

/-- In a run from there, no duration is negative exactly if every clean-up is in time. -/
theorem run_durable_iff {trace : List (Taken ρ)} {finish : GatewayProcess ρ}
    (holds : OnTime gateway inputs) (ascending : Ascending inputs)
    (ran : gateway.run shuffler protobuf inputs = .ok (trace, finish)) :
    (∀ taken ∈ trace, taken.after.Durable) ↔ ∀ taken ∈ trace, taken.CleansInTime := by
  induction inputs generalizing gateway trace with
  | nil =>
    cases ran
    simp
  | cons input inputs inductionHypothesis =>
    obtain ⟨event, moment⟩ := input
    obtain ⟨notes, next, later, done, others, rfl⟩ := GatewayProcess.run_cons.mp ran
    obtain ⟨steady, apart⟩ := ascending
    rw [List.forall_mem_cons] at steady
    rw [List.pairwise_cons] at apart
    have first := step_durable_iff holds steady.1 done
    have step : GatewayStep shuffler protobuf gateway ⟨gateway, event, moment, notes, next⟩ next :=
      ⟨rfl, rfl, done⟩
    -- the rest of the run starts on time if this step settles nothing negative
    have rest : next.Durable →
        ((∀ taken ∈ later, taken.after.Durable) ↔ ∀ taken ∈ later, taken.CleansInTime) := by
      intro durable
      have started := step_started holds steady.1 apart.1 done
      exact inductionHypothesis ⟨(step.moves holds.sound).1, started, durable⟩ ⟨steady.2, apart.2⟩ others
    rw [List.forall_mem_cons, List.forall_mem_cons, ← first]
    exact and_congr_right rest

end Clocks

/-- In every run whose clocks never go back: no settlement on its way to the backend has a
    negative duration, exactly if no clean-up finds a player expired in a room whose play
    starts a second or more after the clock that the clean-up was given. -/
theorem durations_iff (shuffler : Shuffler ρ) (protobuf : Protobuf) (random : ρ)
    (inputs : List (Event × Moment)) (ascending : Ascending inputs) :
    ∃ trace finish, ({ manager := { random } } : GatewayProcess ρ).run shuffler protobuf inputs =
        .ok (trace, finish) ∧
      ((∀ taken ∈ trace, ∀ entry, taken.after.Settling entry → 0 ≤ entry.durationSeconds) ↔
        ∀ taken ∈ trace, taken.CleansInTime) := by
  obtain ⟨trace, finish, ran, _⟩ := gateway_runs shuffler protobuf random inputs
  refine ⟨trace, finish, ran, run_durable_iff ⟨managerInv_empty random, ?_, ?_⟩ ascending ran⟩
  · intro input _ roomId started given
    simp [RoomManager.playStart] at given
  · intro entry settling
    simp [GatewayProcess.Settling] at settling

/-! ## A play that starts after the clean-up -/

/-- The timer looks at the clock, and it goes on before a play starts. -/
def Moment.tick (now started : Time) : Moment :=
  { Moment.still with
    packetAt := now
    startedAt := now
    now
    endedAt := now
    roomStartedAt := fun _ => started }

theorem tick_before {now started later other : Time} (forward : now ≤ later) (starts : started ≤ later) :
    (Moment.tick now started).Before (Moment.tick later other) :=
  ⟨forward, fun _ => starts⟩

theorem ascending_append {earlier later : List (Event × Moment)} (first : Ascending earlier)
    (second : Ascending later) (apart : ∀ one ∈ earlier, ∀ other ∈ later, one.2.Before other.2) :
    Ascending (earlier ++ later) :=
  ⟨List.forall_mem_append.mpr ⟨first.1, second.1⟩,
    List.pairwise_append.mpr ⟨first.2, second.2, apart⟩⟩

theorem ascending_single {event : Event} {moment : Moment} (steady : moment.Steady) :
    Ascending [(event, moment)] :=
  ⟨by simpa using steady, List.pairwise_singleton _ _⟩

/-- Clocks that stand still. -/
theorem ascending_still (time : Time) (events : List Event) :
    Ascending (events.map fun event => (event, Moment.tick time time)) := by
  have steady : (Moment.tick time time).Steady := ⟨le_rfl, le_rfl, le_rfl, fun _ => le_rfl⟩
  refine ⟨List.forall_mem_map.mpr fun _ _ => steady, List.pairwise_map.mpr ?_⟩
  exact List.pairwise_of_forall fun _ _ => tick_before le_rfl le_rfl

/-- Three players are matched.  The first one calls and leaves, the second one does not call;
    five minutes later the timer calls for the third, and a second passes before play starts. -/
def startsLate : List (Event × Moment) :=
  atOnce ([.accepted .tcp, .accepted .tcp, .accepted .tcp] ++
    logsIn 0 "ann" ++ logsIn 1 "bob" ++ logsIn 2 "cat" ++
    packetArrives 0 .c2sQuickMatch [] ++ [.next, .written 0 true] ++
    packetArrives 1 .c2sQuickMatch [] ++ [.next, .written 1 true] ++
    packetArrives 2 .c2sQuickMatch [] ++ List.replicate 13 .next ++
    packetArrives 0 .c2sCallLandlord [8, 1] ++ List.replicate 12 .next ++
    packetArrives 1 .c2sCallLandlord [] ++ List.replicate 12 .next ++
    [.heartbeatExpired 0] ++ List.replicate 8 .next) ++
  ([(.cleanup, .tick (seconds 300) (seconds 301))] ++
    (List.replicate 12 Event.next).map fun event => (event, .tick (seconds 301) (seconds 301)))

theorem startsLate_ascending : Ascending startsLate := by
  have waits : seconds 300 ≤ seconds 301 := by decide
  have tick : (Moment.tick (seconds 300) (seconds 301)).Steady :=
    ⟨le_rfl, le_rfl, le_rfl, fun _ => waits⟩
  have single : Ascending [(.cleanup, .tick (seconds 300) (seconds 301))] := ascending_single tick
  refine ascending_append (ascending_still 0 _) (ascending_append single (ascending_still _ _) ?_) ?_
  · intro one single other member
    obtain rfl := List.mem_singleton.mp single
    obtain ⟨_, _, rfl⟩ := List.mem_map.mp member
    exact tick_before waits le_rfl
  · intro one early other late
    obtain ⟨_, _, rfl⟩ := List.mem_map.mp early
    obtain single | member := List.mem_append.mp late
    · obtain rfl := List.mem_singleton.mp single
      exact tick_before (by decide) (by decide)
    · obtain ⟨_, _, rfl⟩ := List.mem_map.mp member
      exact tick_before (by decide) (by decide)

/-- A settlement with a negative duration is on the agenda. -/
def Taken.settlesNegative (taken : Taken ρ) : Bool :=
  taken.after.agenda.any fun
    | .postSettle entry => entry.durationSeconds < 0
    | _ => false

theorem Taken.of_settlesNegative {taken : Taken ρ} (negative : taken.settlesNegative) :
    ∃ entry, taken.after.Settling entry ∧ entry.durationSeconds < 0 := by
  obtain ⟨task, member, below⟩ := List.any_eq_true.mp negative
  split at below
  · exact ⟨_, .inl member, of_decide_eq_true below⟩
  · cases below

/-- The game is settled with a duration of minus one second. -/
theorem settled_before_start : Ascending startsLate ∧ ∃ trace finish,
    ({ manager := { random := () } } : GatewayProcess Unit).run .identity WireFormat.generated
      startsLate = .ok (trace, finish) ∧
    ∃ taken ∈ trace, ∃ entry, taken.after.Settling entry ∧ entry.durationSeconds < 0 := by
  obtain ⟨⟨trace, finish⟩, ran, passes⟩ := ExceptLoop.exists_of_test
    (show ExceptLoop.test (fun (trace, _) => trace.any Taken.settlesNegative)
      (({ manager := { random := () } } : GatewayProcess Unit).run .identity WireFormat.generated
        startsLate) = true by
    decide +kernel)
  obtain ⟨taken, member, negative⟩ := List.any_eq_true.mp passes
  exact ⟨startsLate_ascending, trace, finish, ran, taken, member, taken.of_settlesNegative negative⟩

theorem startsLate_durations : ∃ trace finish,
    ({ manager := { random := () } } : GatewayProcess Unit).run .identity WireFormat.generated
      startsLate = .ok (trace, finish) ∧
    ((∀ taken ∈ trace, ∀ entry, taken.after.Settling entry → 0 ≤ entry.durationSeconds) ↔
      ∀ taken ∈ trace, taken.CleansInTime) :=
  durations_iff .identity WireFormat.generated () startsLate startsLate_ascending

end Doudizhu.Gateway
