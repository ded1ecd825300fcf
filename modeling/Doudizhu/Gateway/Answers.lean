import Doudizhu.Gateway.Closing
import Doudizhu.Gateway.Outboxes

/-! # Answers

Every packet of a session is answered: by the time that its handler ends, a packet has been
sent to the session, or the session has closed, or a login was posted that will be answered
when it has come back.  The answer to a landlord call goes through the notifier, which knows
the session: its token is the last one that was given out for the player.
-/

namespace Doudizhu.Gateway

open Game Transfer

variable {ρ : Type} {shuffler : Shuffler ρ} {protobuf : Protobuf}

/-! ## The sessions of the entries -/

/-- The session that has the token of an entry is the one that the entry sends to. -/
def EntryInv (gateway : GatewayProcess ρ) : Prop :=
  ∀ player entry id face, gateway.notifier.senders.lookup player = some entry →
    gateway.face id = some face → face.notifierToken = some entry.token → entry.session = id

section Entries

variable {trace : List (Taken ρ)} {before after : GatewayProcess ρ} {event : Event} {notes : List Note}

theorem entryInv_start (random : ρ) : EntryInv ({ manager := { random } } : GatewayProcess ρ) := by
  intro player entry id face found
  simp at found

/-- Steps that give out no token. -/
theorem EntryInv.frame (holds : EntryInv before)
    (entries : ∀ player entry, after.notifier.senders.lookup player = some entry →
      before.notifier.senders.lookup player = some entry)
    (faces : ∀ id face token, after.face id = some face → face.notifierToken = some token →
      ∃ old, before.face id = some old ∧ old.notifierToken = some token) : EntryInv after := by
  intro player entry id face found present told
  obtain ⟨old, was, same⟩ := faces id face entry.token present told
  exact holds player entry id old (entries player entry found) was same

theorem entryInv_move (tokens : TokenInv trace before) (holds : EntryInv before)
    (move : GatewayMove before event notes after) : EntryInv after := by
  have unmoved : after.notifier = before.notifier → ∀ player entry,
      after.notifier.senders.lookup player = some entry →
      before.notifier.senders.lookup player = some entry := by
    intro same player entry found
    rwa [same] at found
  have unseen : (∀ id, after.face id = before.face id) → ∀ id face token, after.face id = some face →
      face.notifierToken = some token →
      ∃ old, before.face id = some old ∧ old.notifierToken = some token :=
    fun faces id face token present told => ⟨face, (faces id).symm.trans present, told⟩
  have shut : ∀ {closer : SessionId} {own : Face}, before.face closer = some own →
      (∀ other, after.face other =
        if other = closer then some { own with closed := true } else before.face other) →
      ∀ id face token, after.face id = some face → face.notifierToken = some token →
        ∃ old, before.face id = some old ∧ old.notifierToken = some token := by
    intro closer own present faces id face token found told
    obtain ⟨old, was, _, same⟩ := actor_closed present faces found
    exact ⟨old, was, same.trans told⟩
  cases move with
  | stalled => exact holds
  | other tasks keeps => exact holds.frame (unmoved keeps.notifier) (unseen keeps.face)
  | handed handing keeps => exact holds.frame (unmoved keeps.notifier) (unseen keeps.face)
  | opened idle reader manager notifier faces =>
    refine holds.frame (unmoved notifier) ?_
    intro id face token present told
    obtain same | ⟨_, fresh⟩ := faces id
    · exact ⟨face, same.symm.trans present, told⟩
    · rw [fresh] at present
      cases present
      cases told
  | acted idle reader found placed effect notifier faces =>
    exact holds.frame (unmoved notifier) (unseen faces)
  | closed kind head present opened stale manager notifier faces =>
    exact holds.frame (unmoved notifier) (shut present faces)
  | closing tasks kind head present opened current manager notifier faces =>
    exact holds.frame (unmoved notifier) (shut present faces)
  | finished kind head manager notifier faces =>
    refine holds.frame ?_ (unseen faces)
    intro player entry found
    rw [notifier] at found
    exact released_entry found
  | cleaned tasks shrinks reader unfinished unclosed notifier faces =>
    exact holds.frame (unmoved notifier) (unseen faces)
  | @loggedIn _ index completion tasks idle kind came success manager notifier faces =>
    intro player entry id face found present told
    rw [notifier, PlayerNotifier.find_register] at found
    rw [faces] at present
    -- the new token is above those of all entries and sessions
    split at found
    · cases found
      split at present
      · next own => exact own.symm
      · exact absurd (tokens.below id face _ present told) (Nat.lt_irrefl _)
    · have older := tokens.entry player entry found
      split at present
      · obtain ⟨old, was, rfl⟩ := Option.map_eq_some_iff.mp present
        rw [Option.some.inj told] at older
        exact absurd older (Nat.lt_irrefl _)
      · exact holds player entry id face found present told

/-- A session that is not displaced, and knows its player, gets what is sent to the player. -/
theorem registered_session {id : SessionId} {face : Face} (tokens : TokenInv trace before)
    (holds : EntryInv before) (present : before.face id = some face) (named : face.playerId ≠ "")
    (placed : face.displaced before.notifier = false) :
    ∃ entry, before.notifier.senders.lookup face.playerId = some entry ∧ entry.session = id := by
  obtain ⟨token, told⟩ := Option.ne_none_iff_exists'.mp (tokens.told id face present named)
  have current : before.notifier.isCurrent face.playerId token := by
    by_contra stale
    have displaced := displaced_iff.mpr ⟨named, token, told, stale⟩
    rw [placed] at displaced
    cases displaced
  obtain ⟨entry, found, same⟩ := PlayerNotifier.isCurrent_iff.mp current
  exact ⟨entry, found, holds _ entry id face found present (same ▸ told)⟩

end Entries

/-! ## What is owed to a session -/

/-- The call sends a packet to the session, or closes it. -/
def Task.Answers (notifier : PlayerNotifier) (id : SessionId) : Task → Prop
  | .sendPacket receiver _ | .close receiver => receiver = id
  | .notify player _ => ∃ entry, notifier.senders.lookup player = some entry ∧ entry.session = id
  | _ => False

/-- The running handler has still to answer the session. -/
def GatewayProcess.Owes (gateway : GatewayProcess ρ) (id : SessionId) : Prop :=
  ∃ task ∈ gateway.agenda, task.Answers gateway.notifier id

/-- The backend, or the way back from it, has a login of the session. -/
def GatewayProcess.LoginPending (gateway : GatewayProcess ρ) (id : SessionId) : Prop :=
  (∃ requested, .login id requested ∈ gateway.jobs) ∨ ∃ completion ∈ gateway.completions,
    completion.session = id

def GatewayProcess.Closed (gateway : GatewayProcess ρ) (id : SessionId) : Prop :=
  ∃ session, gateway.sessions[id]? = some session ∧ session.closed

/-- The step passes a packet to the queue of the session. -/
def GatewayProcess.Sends (gateway : GatewayProcess ρ) (protobuf : Protobuf) (event : Event)
    (id : SessionId) : Prop :=
  ∃ packet, (gateway.traffic protobuf event id).change = some (.push packet)

theorem not_owes_idle {gateway : GatewayProcess ρ} (idle : gateway.agenda = []) (id : SessionId) :
    ¬ gateway.Owes id := by
  intro ⟨task, member, _⟩
  rw [idle] at member
  cases member

section Handlers

variable {trace : List (Taken ρ)} {before after base : GatewayProcess ρ} {moment : Moment}
  {notes : List Note} {id : SessionId}

/-- The first of the calls sends a packet to the session. -/
theorem owes_send {message : ServerMessage} {tasks : List Task}
    (agenda : after.agenda = .sendPacket id message :: tasks) : after.Owes id :=
  ⟨.sendPacket id message, by rw [agenda]; exact List.mem_cons_self, rfl⟩

theorem owes_close (agenda : after.agenda = [.close id]) : after.Owes id :=
  ⟨.close id, by rw [agenda]; exact List.mem_cons_self, rfl⟩

/-- All of some players are told, and one of them is known to be at the session. -/
theorem owes_told {message : ServerMessage} {players : List PlayerId} {player : PlayerId} {tasks : List Task}
    (agenda : after.agenda = GatewayProcess.tellAll players message ++ tasks) (among : player ∈ players)
    (registered : ∃ entry, after.notifier.senders.lookup player = some entry ∧ entry.session = id) :
    after.Owes id := by
  refine ⟨.notify player message, ?_, registered⟩
  rw [agenda]
  exact List.mem_append_left _ (List.mem_flatMap.mpr ⟨player, among, List.mem_cons_self⟩)

/-- The caller is among the players who are told. -/
theorem callLandlord_told (sound : ManagerInv base.manager) {startedAt now : Time} {player : PlayerId}
    {call : Bool} {result : CallLandlordResult} {manager : RoomManager ρ}
    (done : base.manager.callLandlord shuffler startedAt now player call = .ok (some result, manager)) :
    player ∈ result.playerIds ∧ base.manager.playerRooms.lookup player ≠ none := by
  obtain ⟨⟨acted, next⟩, act, same⟩ := ExceptLoop.bind_ok.mp done
  obtain none | ⟨found, other, room, round, state, did, spec⟩ :=
    act_spec shuffler sound startedAt now player (.callLandlord · call)
  · rw [none] at act
    cases act
    cases same
  · rw [did] at act
    cases act
    cases same
    refine ⟨?_, by rw [spec.indexed]; nofun⟩
    change player ∈ found.players
    rw [spec.players]
    exact spec.member

/-- The only operation that is answered so is the call. -/
theorem asked_told (sound : ManagerInv base.manager) {op : RoomOp} {player : PlayerId}
    {result : CallLandlordResult} {manager : RoomManager ρ} (asked : op.AskedBy player moment)
    (done : op.exec shuffler base.manager = .ok (.called (some result), manager)) :
    player ∈ result.playerIds ∧ base.manager.playerRooms.lookup player ≠ none := by
  cases asked with
  | callLandlord call =>
    obtain ⟨⟨_, _⟩, called, same⟩ := ExceptLoop.bind_ok.mp done
    cases same
    exact callLandlord_told sound called
  | matchPlayer | playCards | pass =>
    obtain ⟨⟨_, _⟩, _, same⟩ := ExceptLoop.bind_ok.mp done
    cases same

/-- The handler of a packet answers it, or posts a login. -/
theorem served_owes {session : Session} (sound : ManagerInv base.manager) (idle : base.agenda = [])
    (registered : session.face.displaced base.notifier = false →
      base.manager.playerRooms.lookup session.playerId ≠ none →
      ∃ entry, base.notifier.senders.lookup session.playerId = some entry ∧ entry.session = id)
    (served : Served shuffler base moment id session after) :
    after.Owes id ∨ ∃ requested, after.jobs = base.jobs ++ [.login id requested] := by
  cases served with
  | closed => exact .inl (owes_close (by simp [GatewayProcess.push, idle]))
  | login requested => exact .inr ⟨requested, rfl⟩
  | answered => exact .inl (owes_send rfl)
  | refused => exact .inl (owes_close (by simp [GatewayProcess.push, idle]))
  | asked placed asked done follows first =>
    obtain ⟨message, rest, rfl⟩ | ⟨result, message, rfl, rfl⟩ := first
    · exact .inl (owes_send rfl)
    · obtain ⟨among, present⟩ := asked_told sound asked done
      exact .inl (owes_told rfl among (registered placed present))

/-- Every packet is answered, or a login is posted for it. -/
theorem handled_owes {old : Session} (sound : ManagerInv before.manager) (tokens : TokenInv trace before)
    (entries : EntryInv before) (was : before.sessions[id]? = some old)
    (handled : Handled shuffler before id old notes after) :
    after.Owes id ∨ ∃ requested, after.jobs = before.jobs ++ [.login id requested] := by
  obtain ⟨base, moment, session, manager, notifier, jobs, idle, face, dispatched⟩ := handled
  rw [← jobs]
  refine served_owes (manager ▸ sound) idle ?_ dispatched.served
  rw [manager, notifier]
  intro placed seated
  -- nobody without a name is in a room
  have named : session.playerId ≠ "" := by
    intro unnamed
    rw [unnamed] at seated
    exact seated tokens.nobody
  exact registered_session tokens entries (face ▸ face_of_session was) named placed

end Handlers

/-! ## Steps -/

section Steps

variable {trace : List (Taken ρ)} {before after : GatewayProcess ρ} {moment : Moment} {event : Event}
  {notes : List Note} {id : SessionId} {old new : Session}

/-- The entry of the session stays while a handler runs, unless the session has closed. -/
theorem entry_stays (closing : ClosingInv before) (entries : EntryInv before) (busy : before.agenda ≠ [])
    (move : GatewayMove before event notes after) {player : PlayerId} {entry : NotifierEntry}
    (found : before.notifier.senders.lookup player = some entry) (own : entry.session = id) :
    after.notifier.senders.lookup player = some entry ∨ ∃ face, after.face id = some face ∧ face.closed := by
  cases move with
  | stalled => exact .inl found
  | other tasks keeps => exact .inl (by rw [keeps.notifier]; exact found)
  | handed handing keeps => exact .inl (by rw [keeps.notifier]; exact found)
  | opened idle | acted idle | loggedIn idle => exact absurd idle busy
  | closed _ _ _ _ _ _ notifier | closing _ _ _ _ _ _ _ notifier | cleaned _ _ _ _ _ notifier =>
    exact .inl (by rw [notifier]; exact found)
  | @finished _ closer kind head manager notifier faces =>
    obtain ⟨face, present, closed, current⟩ := closing.holds closer (List.mem_of_mem_head? head)
    obtain ⟨named, token, told, registered⟩ := current_iff.mp current
    rw [notifier, present]
    obtain ⟨playerId, notifierToken, shut⟩ := face
    cases told
    by_cases gone : player = playerId ∧ entry.token = token
    · -- the session that gives up the entry is closed
      right
      have same : entry.session = closer :=
        entries player entry closer _ found present (congrArg some gone.2.symm)
      rw [← own, same, faces]
      exact ⟨_, present, closed⟩
    · exact .inl (PlayerNotifier.find_unregister.mpr ⟨found, gone⟩)

theorem closed_of_closing (closing : after.Closing id) : after.Closed id ∨ after.Owes id :=
  closing.imp_right fun member => ⟨.close id, member, rfl⟩

/-- What is owed to a session is still owed after a step, or a packet was sent to it, or it
    has closed. -/
theorem owes_move (closing : ClosingInv before) (entries : EntryInv before)
    (was : before.sessions[id]? = some old) (now : after.sessions[id]? = some new)
    (done : before.step shuffler protobuf event moment = .ok (notes, after))
    (move : GatewayMove before event notes after) (owes : before.Owes id) :
    after.Closed id ∨ after.Owes id ∨ before.Sends protobuf event id := by
  obtain ⟨task, member, answers⟩ := owes
  have busy : before.agenda ≠ [] := List.ne_nil_of_mem member
  have closes : before.Closing id → after.Closed id ∨ after.Owes id ∨ before.Sends protobuf event id :=
    fun closing => (closed_of_closing (closing_move was now closing move)).imp_right .inl
  cases task with
  | close receiver =>
    obtain rfl : receiver = id := answers
    exact closes (.inr member)
  | sendPacket receiver message =>
    obtain rfl : receiver = id := answers
    obtain head | behind := head_or_tail member
    · obtain ⟨rest, agenda⟩ := List.head?_eq_some_iff.mp head
      by_cases kind : event = .next
      · subst kind
        by_cases small : fits (GatewayProcess.packetOf protobuf message)
        · refine .inr (.inr ⟨GatewayProcess.packetOf protobuf message, ?_⟩)
          rw [traffic_of_session was, agenda, Session.traffic, ← packetOf_length,
            if_pos ⟨rfl, of_decide_eq_true small⟩]
        · have passed : GatewayProcess.packetOf protobuf message ∈ before.passed protobuf .next receiver := by
            simp [GatewayProcess.passed, agenda, was]
          exact .inr (.inl ⟨.close receiver, passed_large done passed (Bool.eq_false_iff.mpr small), rfl⟩)
      · rw [GatewayProcess.step, agenda] at done
        cases event with
        | next => exact absurd rfl kind
        | _ =>
          cases done
          exact .inr (.inl ⟨_, member, rfl⟩)
    · exact .inr (.inl ⟨.sendPacket receiver message, agenda_behind move behind, rfl⟩)
  | notify player message =>
    obtain ⟨entry, found, own⟩ := answers
    obtain head | behind := head_or_tail member
    · obtain ⟨rest, agenda⟩ := List.head?_eq_some_iff.mp head
      by_cases kind : event = .next
      · subst kind
        -- the notifier hands the message to the session
        simp only [GatewayProcess.step, agenda, GatewayProcess.perform, GatewayProcess.send, found] at done
        cases done
        exact .inr (.inl ⟨.sendPacket entry.session message, List.mem_cons_self, own⟩)
      · rw [GatewayProcess.step, agenda] at done
        cases event with
        | next => exact absurd rfl kind
        | _ =>
          cases done
          exact .inr (.inl ⟨_, member, entry, found, own⟩)
    · obtain stays | ⟨face, present, closed⟩ := entry_stays closing entries busy move found own
      · exact .inr (.inl ⟨.notify player message, agenda_behind move behind, entry, stays, own⟩)
      · obtain ⟨session, there, rfl⟩ := session_of_face present
        exact .inl ⟨session, there, closed⟩
  | finishClose | notifyRoomState | postSettle | cleanupIdle | cleanupExpired => exact answers.elim

/-! ## Logins -/

/-- A login that has come back is answered. -/
theorem completeLogin_owes {completion : LoginCompletion}
    (done : before.completeLogin moment completion = .ok (notes, after)) :
    after.Owes completion.session := by
  cases completeLogin_cases done with
  | @refused message => exact ⟨.sendPacket completion.session message, List.mem_cons_self, rfl⟩
  | @accepted players message =>
    refine ⟨.sendPacket completion.session message, ?_, rfl⟩
    exact List.mem_append_left _ (List.mem_append_right _ List.mem_cons_self)

/-- A login that is pending stays so until its answer is owed. -/
theorem loginPending_move (done : before.step shuffler protobuf event moment = .ok (notes, after))
    (pending : before.LoginPending id) : after.LoginPending id ∨ after.Owes id := by
  have calls := step_calls done
  cases calls with
  | same same =>
    refine .inl (pending.imp ?_ ?_)
    · intro ⟨requested, posted⟩
      obtain ⟨more, grown, _⟩ := same.jobs
      exact ⟨requested, grown ▸ List.mem_append_left more posted⟩
    · rw [same.completions]
      exact fun waits => waits
  | @returned index job result idle kind running found notifier jobs completions =>
    left
    obtain ⟨requested, posted⟩ | ⟨completion, waits, own⟩ := pending
    · by_cases same : job = .login id requested
      · -- the backend has answered this login
        subst same
        exact .inr ⟨_, completions ▸ List.mem_append_right _ List.mem_cons_self, rfl⟩
      · obtain ⟨place, there⟩ := List.mem_iff_getElem?.mp posted
        refine .inl ⟨requested, ?_⟩
        rw [jobs, List.mem_eraseIdx_iff_getElem?]
        refine ⟨place, ?_, there⟩
        rintro rfl
        rw [found] at there
        exact same (Option.some.inj there)
    · exact .inr ⟨completion, completions ▸ List.mem_append_left _ waits, own⟩
  | @completed index completion idle kind found notifier jobs completions =>
    obtain ⟨requested, posted⟩ | ⟨other, waits, own⟩ := pending
    · exact .inl (.inl ⟨requested, jobs ▸ posted⟩)
    · by_cases same : other = completion
      · right
        subst same kind
        simp only [GatewayProcess.step, idle, GatewayProcess.handle, found] at done
        exact own ▸ completeLogin_owes done
      · obtain ⟨place, there⟩ := List.mem_iff_getElem?.mp waits
        refine .inl (.inr ⟨other, ?_, own⟩)
        rw [completions, List.mem_eraseIdx_iff_getElem?]
        refine ⟨place, ?_, there⟩
        rintro rfl
        rw [found] at there
        exact same (Option.some.inj there).symm
  | finished kind head found notifier jobs completions =>
    refine .inl (pending.imp ?_ ?_)
    · intro ⟨requested, posted⟩
      exact ⟨requested, jobs ▸ List.mem_append_left _ posted⟩
    · rw [completions]
      exact fun waits => waits

end Steps

end Doudizhu.Gateway
