import Doudizhu.Gateway.Answers

/-! # Handshakes

Until the handshake of a session has ended nothing names it: no packet is on its way to it,
no login of it is pending, and no player is registered at it.  So nothing is written to it
before its first read.
-/

namespace Doudizhu.Gateway

open Game Transfer

variable {ρ : Type} {shuffler : Shuffler ρ} {protobuf : Protobuf}

/-! ## What names a session -/

/-- A packet will be sent to the session, or could be. -/
def GatewayProcess.Names (gateway : GatewayProcess ρ) (id : SessionId) : Prop :=
  (∃ message, .sendPacket id message ∈ gateway.agenda) ∨ gateway.LoginPending id ∨
    ∃ player entry, gateway.notifier.senders.lookup player = some entry ∧ entry.session = id

/-- The session is there, and its handshake has ended. -/
def GatewayProcess.Heard (gateway : GatewayProcess ρ) (id : SessionId) : Prop :=
  ∃ session, gateway.sessions[id]? = some session ∧ session.pendingRead ≠ some .handshake

/-- What the handler names newly is session `id`. -/
def NamesOnly (id : SessionId) (before after : GatewayProcess ρ) : Prop :=
  ∀ other, after.Names other → before.Names other ∨ other = id

section Handlers

variable {base after : GatewayProcess ρ} {moment : Moment} {id other : SessionId} {tasks : List Task}

/-- What calls and jobs name that are added. -/
theorem names_added (base : GatewayProcess ρ) {jobs : List Job} (named : after.Names other)
    (agenda : after.agenda = tasks ++ base.agenda) (posted : after.jobs = base.jobs ++ jobs)
    (notifier : after.notifier = base.notifier) (completions : after.completions = base.completions) :
    base.Names other ∨ (∃ message, .sendPacket other message ∈ tasks) ∨
      ∃ requested, .login other requested ∈ jobs := by
  unfold GatewayProcess.Names GatewayProcess.LoginPending at *
  rw [agenda, posted, notifier, completions] at named
  obtain ⟨message, member⟩ | (⟨requested, member⟩ | waits) | registered := named
  · obtain added | old := List.mem_append.mp member
    · exact .inr (.inl ⟨message, added⟩)
    · exact .inl (.inl ⟨message, old⟩)
  · obtain old | added := List.mem_append.mp member
    · exact .inl (.inr (.inl (.inl ⟨requested, old⟩)))
    · exact .inr (.inr ⟨requested, added⟩)
  · exact .inl (.inr (.inl (.inr waits)))
  · exact .inl (.inr (.inr registered))

/-- Calls that send nothing to the session. -/
theorem names_quiet (quiet : ∀ message, .sendPacket other message ∉ tasks)
    (named : (base.push tasks).Names other) : base.Names other := by
  obtain old | ⟨message, sent⟩ | ⟨requested, posted⟩ :=
    names_added base named rfl (List.append_nil _).symm rfl rfl
  · exact old
  · exact absurd sent (quiet message)
  · cases posted

/-- Calls that send to the session alone. -/
theorem namesOnly_push {manager : RoomManager ρ}
    (sends : ∀ receiver message, .sendPacket receiver message ∈ tasks → receiver = id) :
    NamesOnly id base ({ base with manager }.push tasks) := by
  intro other named
  obtain old | ⟨message, sent⟩ | ⟨requested, posted⟩ :=
    names_added base named rfl (List.append_nil _).symm rfl rfl
  · exact .inl old
  · exact .inr (sends other message sent)
  · cases posted

theorem settleTasks_sends (entries : List SettlementEntry) (sent : ServerMessage) (receiver : SessionId) :
    .sendPacket receiver sent ∉ entries.flatMap GatewayProcess.settleTasks := by
  simp [GatewayProcess.settleTasks]

/-- What the handler of a packet sends, and the login that it posts, are of its session. -/
theorem served_names {session : Session} (served : Served shuffler base moment id session after) :
    NamesOnly id base after := by
  cases served with
  | closed | answered => exact @namesOnly_push _ base id _ base.manager (by simp)
  | login requested =>
    intro other named
    obtain old | ⟨message, sent⟩ | ⟨name, posted⟩ :=
      names_added base named (List.nil_append _).symm rfl rfl rfl
    · exact .inl old
    · cases sent
    · cases List.mem_singleton.mp posted
      exact .inr rfl
  | refused => exact namesOnly_push (by simp)
  | asked placed asked done follows first =>
    exact namesOnly_push fun receiver message sent => follows _ sent

/-- A change of a session names nothing. -/
theorem names_reads : ReadRule shuffler moment id (@NamesOnly ρ id) where
  update names := names
  still _ _ := .inl
  served := served_names

end Handlers

/-! ## Steps -/

section Steps

variable {before after : GatewayProcess ρ} {moment : Moment} {event : Event} {notes : List Note}
  {id : SessionId}

theorem completeLogin_names {completion : LoginCompletion}
    (done : before.completeLogin moment completion = .ok (notes, after)) (named : after.Names id) :
    before.Names id ∨ id = completion.session := by
  cases completeLogin_cases done with
  | refused => exact @namesOnly_push _ before completion.session _ before.manager (by simp) id named
  | accepted =>
    obtain ⟨message, sent⟩ | pending | ⟨player, entry, found, own⟩ := named
    · obtain added | old := List.mem_append.mp sent
      · obtain told | answer := List.mem_append.mp added
        · simp at told
        · cases List.mem_singleton.mp answer
          exact .inr rfl
      · exact .inl (.inl ⟨message, old⟩)
    · exact .inl (.inr (.inl pending))
    · have found : (before.notifier.registerPlayer completion.result.playerId
          completion.session).2.senders.lookup player = some entry := found
      rw [PlayerNotifier.find_register] at found
      split at found
      · cases found
        exact .inr own.symm
      · exact .inl (.inr (.inr ⟨player, entry, found, own⟩))

/-- Without the call that is made. -/
theorem names_rest {task : Task} {rest : List Task} (agenda : before.agenda = task :: rest)
    (named : ({ before with agenda := rest } : GatewayProcess ρ).Names id) : before.Names id :=
  named.imp_left fun ⟨message, sent⟩ => ⟨message, by rw [agenda]; exact List.mem_cons_of_mem _ sent⟩

theorem perform_names {task : Task}
    (done : before.perform protobuf moment task = .ok (notes, after)) (named : after.Names id) :
    before.Names id := by
  cases perform_cases done with
  | nothing | enqueued | closed | cleanedIdle => exact named
  | oversized => exact names_quiet (by simp) named
  | closing found opened told =>
    have old := names_quiet ?_ named
    · exact old
    · intro message sent
      obtain sent | ends := List.mem_append.mp sent
      · obtain ⟨player, state, same⟩ := told _ sent
        cases same
      · cases List.mem_singleton.mp ends
  | cleanedExpired =>
    have old := names_quiet (fun message => settleTasks_sends _ message id) named
    exact old
  | finished found =>
    refine named.imp_right (Or.imp (Or.imp_left ?_) ?_)
    · rintro ⟨requested, posted⟩
      obtain old | new := List.mem_append.mp posted
      · exact ⟨requested, old⟩
      · cases List.mem_singleton.mp new
    · rintro ⟨player, entry, registered, own⟩
      exact ⟨player, entry, released_entry registered, own⟩
  | @handed _ player message entry kind found =>
    obtain old | ⟨_, sent⟩ | ⟨_, posted⟩ := names_added before named rfl (List.append_nil _).symm rfl rfl
    · exact old
    · cases List.mem_singleton.mp sent
      exact .inr (.inr ⟨player, entry, found, rfl⟩)
    · cases posted
  | posted =>
    obtain old | ⟨_, sent⟩ | ⟨_, posted⟩ := names_added before named (List.nil_append _).symm rfl rfl rfl
    · exact old
    · cases sent
    · cases List.mem_singleton.mp posted

theorem handle_names (done : before.handle shuffler protobuf moment event = .ok (notes, after))
    (named : after.Names id) : before.Names id ∨ before.Heard id := by
  -- what reads a packet names its session only
  have reads : ∀ {reader : SessionId} {session : Session} {pending : PendingRead},
      before.sessions[reader]? = some session → session.pendingRead = some pending →
      pending ≠ .handshake → NamesOnly reader before after → before.Names id ∨ before.Heard id := by
    intro reader session pending found waits shaken names
    obtain old | rfl := names id named
    · exact .inl old
    · exact .inr ⟨session, found, by simpa [waits] using shaken⟩
  have happened := handle_cases shuffler protobuf before moment event
  generalize before.handle shuffler protobuf moment event = outcome at done happened
  cases happened with
  | nothing | accepted | shaken | written =>
    cases done
    exact .inl named
  | unshaken | unwritten | expired =>
    cases done
    have old := names_quiet (by simp) named
    exact .inl old
  | headerRead found pending => exact reads found pending (by simp) (names_reads.headerRead done)
  | bodyRead found pending => exact reads found pending (by simp) (names_reads.bodyRead done)
  | frameRead found pending => exact reads found pending (by simp) (names_reads.frameRead done)
  | @returned index job result running found =>
    cases done
    refine .inl (named.imp_right (Or.imp_left ?_))
    rintro (⟨requested, left⟩ | ⟨completion, waits, own⟩)
    · exact .inl ⟨requested, List.mem_of_mem_eraseIdx left⟩
    · obtain old | new := List.mem_append.mp waits
      · exact .inr ⟨completion, old, own⟩
      · cases job with
        | login session requested =>
          -- the login that has come back was posted
          cases List.mem_singleton.mp new
          exact .inl ⟨requested, own ▸ List.mem_of_getElem? found⟩
        | markOffline player | settle entry => cases new
  | @loginCompleted index completion found =>
    obtain old | own := completeLogin_names done named
    · refine .inl (old.imp_right (Or.imp_left (Or.imp_right ?_)))
      rintro ⟨other, waits, own⟩
      exact ⟨other, List.mem_of_mem_eraseIdx waits, own⟩
    · exact .inl (.inr (.inl (.inr ⟨completion, List.mem_of_getElem? found, own.symm⟩)))
  | cleanup =>
    obtain ⟨⟨actions, manager⟩, _, done⟩ := ExceptLoop.bind_ok.mp done
    cases done
    have old := names_quiet ?_ named
    · exact .inl old
    · intro message sent
      simp [GatewayProcess.timeoutTasks, GatewayProcess.tellAll, GatewayProcess.settleTasks] at sent

/-- Only a session of which a packet was read is named newly. -/
theorem step_names (done : before.step shuffler protobuf event moment = .ok (notes, after))
    (named : after.Names id) : before.Names id ∨ before.Heard id := by
  cases agenda : before.agenda with
  | nil =>
    simp only [GatewayProcess.step, agenda] at done
    exact handle_names done named
  | cons task rest =>
    simp only [GatewayProcess.step, agenda] at done
    split at done
    · exact .inl (names_rest agenda (perform_names done named))
    · cases done
      exact .inl named

/-- A handshake is not begun again. -/
theorem flow_heard {old : Session} {traffic : Traffic} {flow : Flow}
    (heard : old.pendingRead ≠ some .handshake)
    (move : FlowMove shuffler protobuf before event id notes after old traffic flow) :
    flow.pendingRead ≠ some .handshake := by
  have restarted : ∀ session : Session, session.pendingRead ≠ some .handshake →
      session.startRead.flow.pendingRead ≠ some .handshake := by
    intro session unshaken
    rw [startRead_flow]
    split
    · exact unshaken
    · dsimp only
      split <;> simp
  cases move with
  | still | oversized | closed | broken => exact heard
  | enqueued =>
    rw [enqueue_flow]
    exact heard
  | failed | announced | handled => simp
  | shaken => exact restarted _ (by simp)
  | written =>
    rw [Session.written_eq]
    split
    · exact heard
    · exact restarted _ heard

theorem heard_step (done : before.step shuffler protobuf event moment = .ok (notes, after))
    (move : GatewayMove before event notes after) (heard : before.Heard id) : after.Heard id := by
  obtain ⟨old, was, unshaken⟩ := heard
  obtain ⟨new, now⟩ := session_persists move was
  exact ⟨new, now, flow_heard unshaken (step_flow done was now)⟩

end Steps

/-- A session is named only once its handshake has ended. -/
def HandshakeInv (gateway : GatewayProcess ρ) : Prop := ∀ id, gateway.Names id → gateway.Heard id

theorem handshakeInv_start (random : ρ) : HandshakeInv ({ manager := { random } } : GatewayProcess ρ) := by
  intro id named
  simp [GatewayProcess.Names, GatewayProcess.LoginPending] at named

theorem handshakeInv_step {before after : GatewayProcess ρ} {moment : Moment} {event : Event}
    {notes : List Note} (holds : HandshakeInv before)
    (done : before.step shuffler protobuf event moment = .ok (notes, after))
    (move : GatewayMove before event notes after) : HandshakeInv after := by
  intro id named
  obtain old | heard := step_names done named
  · exact heard_step done move (holds id old)
  · exact heard_step done move heard

end Doudizhu.Gateway
