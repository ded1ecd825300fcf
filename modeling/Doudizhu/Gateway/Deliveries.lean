import Doudizhu.Gateway.Outboxes

/-! # Deliveries

The packets that a session has written, step by step: one at a time, when its write ends, and
of the messages that were passed to `send_packet`, in their order.
-/

namespace Doudizhu.Gateway

open Game Transfer

variable {ρ : Type} {shuffler : Shuffler ρ} {protobuf : Protobuf}

/-! ## Messages -/

/-- The message that a step passes to `send_packet` of session `id`. -/
def GatewayProcess.message (gateway : GatewayProcess ρ) (event : Event) (id : SessionId) : List ServerMessage :=
  match gateway.agenda, event with
  | .sendPacket receiver message :: _, .next =>
    if receiver = id ∧ gateway.sessions[id]? ≠ none then [message] else []
  | _, _ => []

def messagesTo (id : SessionId) (trace : List (Taken ρ)) : List ServerMessage :=
  trace.flatMap fun taken => taken.before.message taken.event id

/-- The message is not too large. -/
def fitting (protobuf : Protobuf) (message : ServerMessage) : Bool :=
  fits (GatewayProcess.packetOf protobuf message)

theorem passed_message (gateway : GatewayProcess ρ) (event : Event) (id : SessionId) :
    gateway.passed protobuf event id = (gateway.message event id).map (GatewayProcess.packetOf protobuf) := by
  unfold GatewayProcess.passed GatewayProcess.message
  cases gateway.agenda with
  | nil => rfl
  | cons task rest =>
    cases task with
    | sendPacket receiver message =>
      cases event with
      | next =>
        dsimp only
        split <;> rfl
      | _ => rfl
    | _ => rfl

theorem passedTo_messages (id : SessionId) (trace : List (Taken ρ)) :
    passedTo protobuf id trace = (messagesTo id trace).map (GatewayProcess.packetOf protobuf) := by
  simp only [passedTo, messagesTo, passed_message, List.map_flatMap]

/-! ## Writes -/

/-- The packet whose write the event ends. -/
def GatewayProcess.ends (gateway : GatewayProcess ρ) (event : Event) (id : SessionId) : List Bytes :=
  match event, gateway.sessions[id]? with
  | .written writer true, some session =>
    if gateway.agenda.isEmpty ∧ writer = id ∧ session.writing then session.writeQueue.head?.toList else []
  | _, _ => []

section Writes

variable {trace later : List (Taken ρ)} {taken : Taken ρ} {gateway finish : GatewayProcess ρ} {id : SessionId}
  {random : ρ}

theorem ends_other {event : Event} (other : event ≠ .written id true) : gateway.ends event id = [] := by
  unfold GatewayProcess.ends
  split
  · next writer _ _ =>
    have differ : writer ≠ id := by
      rintro rfl
      exact other rfl
    simp [differ]
  · rfl

theorem ends_absent (absent : gateway.sessions[id]? = none) (event : Event) : gateway.ends event id = [] := by
  unfold GatewayProcess.ends
  rw [absent]
  split
  · next found => cases found
  · rfl

/-- What a step does to the queue delivers the packet whose write it ends. -/
theorem fifo_delivered (gateway : GatewayProcess ρ) (event : Event) {box : Fifo Bytes}
    (waiting : ∀ session, gateway.sessions[id]? = some session → box.waiting = session.writeQueue) :
    ((gateway.traffic protobuf event id).write.foldl Fifo.act box).delivered =
      box.delivered ++ gateway.ends event id := by
  cases found : gateway.sessions[id]? with
  | none =>
    rw [(traffic_absent found event).1, ends_absent found]
    simp
  | some session =>
    have queue := waiting session found
    rw [Traffic.write_fifo, traffic_of_session found]
    by_cases own : event = .written id true
    · subst own
      cases agenda : gateway.agenda with
      | nil => cases writing : session.writing <;> simp [Session.traffic, GatewayProcess.ends, found, agenda, writing,
          queue, Fifo.act]
      | cons task rest =>
        cases task <;> simp [Session.traffic, GatewayProcess.ends, found, agenda]
    · rw [ends_other own, List.append_nil]
      -- nothing else takes a packet from the queue
      cases agenda : gateway.agenda with
      | nil =>
        cases event with
        | written writer success =>
          simp only [Session.traffic]
          split
          · next writes =>
            cases success with
            | false => rfl
            | true => exact absurd (by rw [writes.1]) own
          · rfl
        | bodyRead reader body =>
          simp only [Session.traffic]
          split
          · split <;> rfl
          · rfl
        | handshaken | headerRead | frameRead =>
          simp only [Session.traffic]
          split <;> rfl
        | _ => rfl
      | cons task rest =>
        cases event with
        | next =>
          cases task with
          | sendPacket receiver message =>
            simp only [Session.traffic]
            split <;> rfl
          | _ => rfl
        | _ => cases task <;> rfl

theorem delivered_step
    (run : Transition.Steps (GatewayStep shuffler protobuf) { manager := { random } } trace taken.before)
    (step : GatewayStep shuffler protobuf taken.before taken taken.after) :
    (outbox protobuf id (trace ++ [taken])).delivered =
      (outbox protobuf id trace).delivered ++ taken.before.ends taken.event id := by
  have before := outbox_run run id
  have after := outbox_run (run.snoc step) id
  have fifo : (outbox protobuf id (trace ++ [taken])).fifo =
      (taken.before.traffic protobuf taken.event id).write.foldl Fifo.act (outbox protobuf id trace).fifo := by
    rw [after.fifo, writesOf_snoc, List.foldl_append, ← before.fifo]
  have delivers := @fifo_delivered ρ protobuf id taken.before taken.event (outbox protobuf id trace).fifo
    fun session found => (before.matched session found).queue
  rw [← fifo] at delivers
  exact delivers

end Writes

/-! ## Handlers -/

section Handlers

variable {trace steps : List (Taken ρ)} {gateway next : GatewayProcess ρ} {id : SessionId} {random : ρ}

/-- While a handler goes on, no write ends. -/
theorem delivered_later {later : List Moment}
    (run : Transition.Steps (GatewayStep shuffler protobuf) { manager := { random } } trace gateway)
    (ran : gateway.run shuffler protobuf (later.map fun moment => (.next, moment)) = .ok (steps, next)) :
    (outbox protobuf id (trace ++ steps)).delivered = (outbox protobuf id trace).delivered := by
  induction later generalizing trace gateway steps with
  | nil =>
    cases ran
    rw [List.append_nil]
  | cons moment later inductionHypothesis =>
    obtain ⟨notes, middle, others, done, rest, rfl⟩ := GatewayProcess.run_cons.mp ran
    have step : GatewayStep shuffler protobuf gateway ⟨gateway, .next, moment, notes, middle⟩ middle :=
      ⟨rfl, rfl, done⟩
    have first := @delivered_step _ _ _ trace ⟨gateway, .next, moment, notes, middle⟩ id _ run step
    rw [ends_other (by simp), List.append_nil] at first
    rw [List.append_cons, inductionHypothesis (run.snoc step) rest, first]

/-- What a handler delivers is the packet whose write its event ends. -/
theorem delivered_handler {event : Event} {moment : Moment} {later : List Moment}
    (run : Transition.Steps (GatewayStep shuffler protobuf) { manager := { random } } trace gateway)
    (ran : gateway.run shuffler protobuf ((event, moment) :: later.map fun moment => (.next, moment)) =
      .ok (steps, next)) :
    (outbox protobuf id (trace ++ steps)).delivered =
      (outbox protobuf id trace).delivered ++ gateway.ends event id := by
  obtain ⟨notes, middle, others, done, rest, rfl⟩ := GatewayProcess.run_cons.mp ran
  have step : GatewayStep shuffler protobuf gateway ⟨gateway, event, moment, notes, middle⟩ middle :=
    ⟨rfl, rfl, done⟩
  rw [List.append_cons, delivered_later (run.snoc step) rest]
  exact @delivered_step _ _ _ trace ⟨gateway, event, moment, notes, middle⟩ id _ run step

/-- What has been delivered are messages that were passed to `send_packet`, in their order. -/
theorem delivered_messages
    (run : Transition.Steps (GatewayStep shuffler protobuf) { manager := { random } } trace gateway) :
    (outbox protobuf id trace).delivered <+:
      ((messagesTo id trace).filter (fitting protobuf)).map (GatewayProcess.packetOf protobuf) := by
  have inv := outbox_run run id
  have order := Fifo.run_order ({} : Fifo Bytes) (writesOf protobuf id trace)
  rw [← inv.fifo, inv.pushed, passedTo_messages, List.filter_map] at order
  exact ⟨(outbox protobuf id trace).queue, order⟩

theorem nothing_delivered
    (run : Transition.Steps (GatewayStep shuffler protobuf) { manager := { random } } trace gateway)
    (absent : gateway.sessions[id]? = none) : (outbox protobuf id trace).delivered = [] := by
  rw [outbox, ((outbox_run run id).absent absent).1]
  rfl

theorem sessions_grow (sound : ManagerInv gateway.manager) {inputs : List (Event × Moment)}
    (ran : gateway.run shuffler protobuf inputs = .ok (steps, next)) :
    gateway.sessions.length ≤ next.sessions.length := by
  have grown := (GatewayProcess.run_steps ran).invariant (fun (later : GatewayProcess ρ) =>
    ManagerInv later.manager ∧ gateway.sessions.length ≤ later.sessions.length) ⟨sound, le_rfl⟩ ?_
  · exact grown.2
  · intro before taken after ⟨sound, grown⟩ step
    obtain ⟨kept, move⟩ := step.moves sound
    refine ⟨kept, grown.trans (not_lt.mp fun fewer => ?_)⟩
    -- the first session that is missing was there
    have was := List.getElem?_eq_getElem fewer
    obtain ⟨session, found⟩ := session_persists move was
    rw [List.getElem?_eq_none le_rfl] at found
    cases found

/-- The new session is the last one. -/
theorem sessions_accepted {transport : Transport} {moment : Moment} (sound : ManagerInv gateway.manager)
    (idle : gateway.agenda = []) {later : List (Event × Moment)}
    (ran : gateway.run shuffler protobuf ((.accepted transport, moment) :: later) = .ok (steps, next)) :
    gateway.sessions.length < next.sessions.length := by
  obtain ⟨notes, middle, others, done, rest, rfl⟩ := GatewayProcess.run_cons.mp ran
  have step : GatewayStep shuffler protobuf gateway ⟨gateway, .accepted transport, moment, notes, middle⟩ middle :=
    ⟨rfl, rfl, done⟩
  have kept := (step.moves sound).1
  have grown := sessions_grow kept rest
  simp only [GatewayProcess.step, idle, GatewayProcess.handle] at done
  cases done
  simp only [List.length_append, List.length_singleton] at grown
  omega

end Handlers

end Doudizhu.Gateway
