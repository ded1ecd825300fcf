import Doudizhu.Gateway.Displacement
import Doudizhu.Gateway.WireFormat

/-! # Sessions and the notifier

An entry of the notifier should belong to an open session that acts as the player, and a
player of a room without an entry should be marked offline.  That is so after every run in
which logins are completed in time: on a session that is still open, and that is not
registered for another player.
-/

namespace Doudizhu.Gateway

open Game

variable {ρ : Type} {shuffler : Shuffler ρ} {protobuf : Protobuf}

/-! ## Agreement -/

/-- Every entry belongs to an open session, which acts as the player with that token. -/
def GatewayProcess.Agrees (gateway : GatewayProcess ρ) : Prop :=
  ∀ player entry, gateway.notifier.senders.lookup player = some entry →
    ∃ session, gateway.sessions[entry.session]? = some session ∧ session.closed = false ∧
      session.playerId = player ∧ session.notifierToken = some entry.token

/-- A player of a room without an entry is marked offline. -/
def GatewayProcess.MarksAbsent (gateway : GatewayProcess ρ) : Prop :=
  ∀ player, gateway.manager.playerRooms.lookup player ≠ none →
    gateway.notifier.senders.lookup player = none →
    gateway.manager.offlineSince.lookup player ≠ none

/-- The notifier has the token of the session for the session's player. -/
def Session.registered (session : Session) (notifier : PlayerNotifier) : Bool :=
  match session.notifierToken with
  | none => false
  | some token => notifier.isCurrent session.playerId token

/-- A login that is completed finds its session open, and not registered for another player. -/
def Taken.LoginInTime (taken : Taken ρ) : Prop :=
  ∀ index completion, taken.before.agenda = [] → taken.event = .loginCompleted index →
    taken.before.completions[index]? = some completion → completion.result.success →
    ∃ session, taken.before.sessions[completion.session]? = some session ∧
      session.closed = false ∧
      (session.registered taken.before.notifier →
        session.playerId = completion.result.playerId)

/-- The step closes the session. -/
def Taken.Closes (taken : Taken ρ) (session : Session) : Prop :=
  taken.event = .next ∧ session.closed = false ∧
    ∃ id, taken.before.agenda.head? = some (.close id) ∧ taken.before.sessions[id]? = some session

/-- No session closes that is registered without a name. -/
def Taken.ClosesNamed (taken : Taken ρ) : Prop :=
  ∀ session, taken.Closes session → session.registered taken.before.notifier →
    session.playerId ≠ ""

/-- No session closes while its player sits in a game. -/
def Taken.ClosesUnseated (taken : Taken ρ) : Prop :=
  ∀ session, taken.Closes session → session.current taken.before.notifier →
    taken.before.manager.seatedRound session.playerId = none

/-! ## The invariant -/

/-- The player is in no room, or marked offline. -/
def Marked (manager : RoomManager ρ) (player : PlayerId) : Prop :=
  manager.playerRooms.lookup player = none ∨ manager.offlineSince.lookup player ≠ none

theorem Marked.shrinks {before after : RoomManager ρ} {player : PlayerId}
    (marked : Marked before player) (shrinks : Shrinks before after) : Marked after player := by
  obtain gone | ⟨rooms, offline⟩ := shrinks player
  · exact .inl gone
  · rwa [Marked, rooms, offline]

theorem Marked.markOffline {manager : RoomManager ρ} {player other : PlayerId}
    (marked : Marked manager other) (now : Time) : Marked (manager.markOffline player now) other := by
  obtain absent | offline := marked
  · exact .inl ((congrArg (Finmap.lookup other) (markOffline_playerRooms ..)).trans absent)
  · refine .inr ?_
    by_cases same : other = player
    · unfold RoomManager.markOffline
      split
      · rw [UnorderedMap.find_emplace, if_pos same]
        simp
      · exact offline
    · rwa [find_markOffline same]

theorem marked_markOffline (manager : RoomManager ρ) (player : PlayerId) (now : Time) :
    Marked (manager.markOffline player now) player := by
  unfold RoomManager.markOffline
  split
  · refine .inr ?_
    rw [UnorderedMap.find_emplace, if_pos rfl]
    simp
  · next absent => exact .inl (Finmap.lookup_eq_none.mpr absent)

/-- What holds between the calls of a handler too: a session that is closing has its entry
    until it finishes, and its player is marked already. -/
structure AgreeInv (gateway : GatewayProcess ρ) : Prop where
  entry : ∀ player entry, gateway.notifier.senders.lookup player = some entry →
    ∃ face, gateway.face entry.session = some face ∧ face.playerId = player ∧
      face.notifierToken = some entry.token ∧
      (face.closed = false ∨ .finishClose entry.session ∈ gateway.agenda)
  covered : ∀ player, gateway.notifier.senders.lookup player ≠ none ∨ Marked gateway.manager player
  closing : ∀ id face, .finishClose id ∈ gateway.agenda → gateway.face id = some face →
    Marked gateway.manager face.playerId

theorem agreeInv_start (random : ρ) : AgreeInv ({ manager := { random } } : GatewayProcess ρ) where
  entry := by simp
  covered := by simp [Marked]
  closing := by simp

theorem plain_nil : ∀ task ∈ ([] : List Task), task.plain := by simp

theorem notMem_plain {tasks : List Task} (plain : ∀ task ∈ tasks, task.plain) (id : SessionId) :
    Task.finishClose id ∉ tasks := by
  intro member
  have allowed := plain _ member
  simp [Task.plain] at allowed

/-- The closes that have not finished stay on the agenda behind plain calls. -/
theorem finishClose_mem {gateway : GatewayProcess ρ} {tasks : List Task}
    (plain : ∀ task ∈ tasks, task.plain) {agenda : List Task} (after : agenda = tasks ++ gateway.agenda.tail)
    (head : ∀ id, gateway.agenda.head? ≠ some (.finishClose id)) (id : SessionId) :
    .finishClose id ∈ agenda ↔ .finishClose id ∈ gateway.agenda := by
  have fresh := notMem_plain plain id
  cases old : gateway.agenda with
  | nil => simp [after, old, fresh]
  | cons task rest =>
    have differ : Task.finishClose id ≠ task := by
      rintro rfl
      exact head id (by rw [old, List.head?_cons])
    simp [after, old, fresh, differ]

section Moves

variable {before after : GatewayProcess ρ}

/-- Steps that leave the sessions and the notifier alone. -/
theorem AgreeInv.still (holds : AgreeInv before) (notifier : after.notifier = before.notifier)
    (faces : ∀ id, after.face id = before.face id)
    (agenda : ∀ id, .finishClose id ∈ after.agenda ↔ .finishClose id ∈ before.agenda)
    (marks : ∀ player, Marked before.manager player → Marked after.manager player) :
    AgreeInv after where
  entry player entry found := by
    rw [notifier] at found
    rw [faces, agenda]
    exact holds.entry player entry found
  covered player := by
    rw [notifier]
    exact (holds.covered player).imp id (marks player)
  closing id face closing found := by
    rw [faces] at found
    exact marks _ (holds.closing id face ((agenda id).mp closing) found)

/-- Between handlers every entry's session is open. -/
theorem AgreeInv.open (holds : AgreeInv before) (unfinished : ∀ id, .finishClose id ∉ before.agenda)
    {player : PlayerId} {entry : NotifierEntry}
    (found : before.notifier.senders.lookup player = some entry) :
    ∃ face, before.face entry.session = some face ∧ face.playerId = player ∧
      face.notifierToken = some entry.token ∧ face.closed = false := by
  obtain ⟨face, present, own, told, opened | closing⟩ := holds.entry player entry found
  · exact ⟨face, present, own, told, opened⟩
  · exact absurd closing (unfinished _)

/-- A call for a player who acts keeps the agreement: the player has an entry. -/
theorem AgreeInv.acted {player : PlayerId} {answered : Bool} (holds : AgreeInv before)
    (registered : player ≠ "" → before.notifier.senders.lookup player ≠ none)
    (effect : CallEffect player answered before.manager after.manager)
    (notifier : after.notifier = before.notifier) (faces : ∀ id, after.face id = before.face id)
    (idle : before.agenda = []) (agenda : ∀ id, .finishClose id ∉ after.agenda) : AgreeInv after := by
  have none : ∀ id, .finishClose id ∈ after.agenda ↔ .finishClose id ∈ before.agenda := by
    simp [agenda, idle]
  obtain ⟨shrinks, _⟩ | ⟨named, offline, others⟩ := effect
  · exact holds.still notifier faces none fun _ marked => marked.shrinks shrinks
  · constructor
    · intro other entry found
      rw [notifier] at found
      rw [faces, none]
      exact holds.entry other entry found
    · intro other
      rw [notifier]
      by_cases own : other = player
      · exact .inl (own ▸ registered named)
      · refine (holds.covered other).imp id fun marked => ?_
        rwa [Marked, others other own, offline]
    · intro id face closing
      exact absurd closing (agenda id)

/-- A login in time gives the player an entry, and takes none from another player. -/
theorem AgreeInv.loggedIn (holds : AgreeInv before) {session : SessionId} {player : PlayerId} {face : Face}
    (idle : before.agenda = []) (present : before.face session = some face)
    (opened : face.closed = false)
    (inTime : ∀ token, face.notifierToken = some token →
      before.notifier.isCurrent face.playerId token → face.playerId = player)
    (manager : after.manager = before.manager.markOnline player)
    (notifier : after.notifier = (before.notifier.registerPlayer player session).2)
    (faces : ∀ id, after.face id = if id = session then (before.face id).map fun face =>
      ⟨player, some before.notifier.nextToken, face.closed⟩ else before.face id)
    (agenda : ∀ id, .finishClose id ∉ after.agenda) : AgreeInv after := by
  have unfinished : ∀ id, .finishClose id ∉ before.agenda := by simp [idle]
  constructor
  · intro other entry found
    rw [notifier, PlayerNotifier.find_register] at found
    split at found
    · next own =>
      cases found
      refine ⟨⟨player, some before.notifier.nextToken, face.closed⟩, ?_, own.symm, rfl, .inl opened⟩
      rw [faces, if_pos rfl, present, Option.map_some]
    · next differ =>
      obtain ⟨old, foundOld, own, told, open'⟩ := holds.open unfinished found
      have elsewhere : entry.session ≠ session := by
        intro same
        rw [same, present] at foundOld
        cases foundOld
        have current : before.notifier.isCurrent face.playerId entry.token :=
          PlayerNotifier.isCurrent_iff.mpr ⟨entry, own ▸ found, rfl⟩
        exact differ (own.symm.trans (inTime _ told current))
      exact ⟨old, by rw [faces, if_neg elsewhere, foundOld], own, told, .inl open'⟩
  · intro other
    rw [notifier, PlayerNotifier.find_register]
    split
    · simp
    · next differ =>
      refine (holds.covered other).imp id fun marked => ?_
      rw [manager, Marked, RoomManager.markOnline, UnorderedMap.find_erase, if_neg differ]
      exact marked
  · intro id face closing
    exact absurd closing (agenda id)

/-- A session without an entry may close at once. -/
theorem AgreeInv.closed (holds : AgreeInv before) {id : SessionId} {face : Face}
    (present : before.face id = some face)
    (unregistered : ∀ entry, before.notifier.senders.lookup face.playerId = some entry →
      face.notifierToken ≠ some entry.token)
    (manager : after.manager = before.manager) (notifier : after.notifier = before.notifier)
    (faces : ∀ other, after.face other = if other = id then some { face with closed := true }
      else before.face other)
    (agenda : ∀ id, .finishClose id ∈ after.agenda ↔ .finishClose id ∈ before.agenda) :
    AgreeInv after := by
  constructor
  · intro player entry found
    rw [notifier] at found
    obtain ⟨old, foundOld, own, told, state⟩ := holds.entry player entry found
    have elsewhere : entry.session ≠ id := by
      intro same
      rw [same, present] at foundOld
      cases foundOld
      exact unregistered entry (own ▸ found) told
    exact ⟨old, by rw [faces, if_neg elsewhere, foundOld], own, told, state.imp_right (agenda _).mpr⟩
  · intro player
    rw [notifier, manager]
    exact holds.covered player
  · intro other old closing found
    rw [manager]
    obtain ⟨earlier, foundEarlier, same, _⟩ := actor_closed present faces found
    exact same ▸ holds.closing other earlier ((agenda other).mp closing) foundEarlier

/-- A session with the entry of its player begins to close. -/
theorem AgreeInv.begins (holds : AgreeInv before) {id : SessionId} {face : Face} {now : Time}
    (present : before.face id = some face)
    (manager : after.manager = before.manager.markOffline face.playerId now)
    (notifier : after.notifier = before.notifier)
    (faces : ∀ other, after.face other = if other = id then some { face with closed := true }
      else before.face other)
    (agenda : ∀ other, .finishClose other ∈ after.agenda ↔
      other = id ∨ .finishClose other ∈ before.agenda) : AgreeInv after := by
  constructor
  · intro player entry found
    rw [notifier] at found
    obtain ⟨old, foundOld, own, told, state⟩ := holds.entry player entry found
    rw [agenda]
    by_cases same : entry.session = id
    · rw [same, present] at foundOld
      cases foundOld
      exact ⟨{ face with closed := true }, by rw [faces, if_pos same], own, told, .inr (.inl same)⟩
    · exact ⟨old, by rw [faces, if_neg same, foundOld], own, told, state.imp_right .inr⟩
  · intro player
    rw [notifier, manager]
    exact (holds.covered player).imp_right fun marked => marked.markOffline now
  · intro other old closing found
    rw [manager]
    obtain ⟨earlier, foundEarlier, same, _⟩ := actor_closed present faces found
    rw [← same]
    obtain own | closing := (agenda other).mp closing
    · rw [own, present] at foundEarlier
      cases foundEarlier
      exact marked_markOffline ..
    · exact (holds.closing other earlier closing foundEarlier).markOffline now

/-- A session that has closed gives up the entry of its player. -/
theorem AgreeInv.finished (holds : AgreeInv before) {id : SessionId}
    (head : before.agenda.head? = some (.finishClose id)) (manager : after.manager = before.manager)
    (notifier : after.notifier = released before.notifier (before.face id))
    (faces : ∀ other, after.face other = before.face other)
    (agenda : after.agenda = before.agenda.tail) : AgreeInv after := by
  have split : before.agenda = .finishClose id :: after.agenda := by
    rw [agenda]
    exact List.eq_cons_of_mem_head? head
  constructor
  · intro player entry found
    rw [notifier] at found
    obtain ⟨old, foundOld, own, told, state⟩ := holds.entry player entry (released_entry found)
    refine ⟨old, (faces _).trans foundOld, own, told, state.imp_right fun closing => ?_⟩
    rw [split] at closing
    obtain same | rest := List.mem_cons.mp closing
    · -- the entry of the session that finishes is gone
      cases same
      obtain ⟨name, token, closed⟩ := old
      cases told
      rw [foundOld] at found
      exact absurd ⟨own.symm, rfl⟩ (PlayerNotifier.find_unregister.mp found).2
    · exact rest
  · intro player
    rw [notifier, manager]
    obtain registered | marked := holds.covered player
    · by_cases own : ∃ face, before.face id = some face ∧ face.playerId = player
      · obtain ⟨face, found, rfl⟩ := own
        exact .inr (holds.closing id face (by rw [split]; exact List.mem_cons_self ..) found)
      · left
        rwa [find_released]
        exact fun face found same => absurd ⟨face, found, same⟩ own
    · exact .inr marked
  · intro other face closing found
    rw [manager]
    rw [faces] at found
    exact holds.closing other face (by rw [split]; exact List.mem_cons_of_mem _ closing) found

end Moves

/-! ## Steps -/

/-- A step that closes a session whose handler finds it open. -/
theorem closes_of_face (taken : Taken ρ) {id : SessionId} {face : Face} (kind : taken.event = .next)
    (head : taken.before.agenda.head? = some (.close id)) (present : taken.before.face id = some face)
    (opened : face.closed = false) : ∃ session, session.face = face ∧ taken.Closes session := by
  obtain ⟨session, found, rfl⟩ := session_of_face present
  exact ⟨session, rfl, kind, opened, id, head, found⟩

theorem agreeInv_move {trace : List (Taken ρ)} {taken : Taken ρ} (tokens : TokenInv trace taken.before)
    (holds : AgreeInv taken.before)
    (move : GatewayMove taken.before taken.event taken.notes taken.after) (inTime : taken.LoginInTime)
    (closesNamed : taken.ClosesNamed) : AgreeInv taken.after := by
  obtain ⟨before, event, moment, notes, after⟩ := taken
  simp only at tokens holds move
  cases move with
  | stalled => exact holds
  | other tasks keeps agenda plain head =>
    exact holds.still keeps.notifier keeps.face (finishClose_mem plain agenda head)
      fun _ marked => by rwa [Marked, keeps.manager]
  -- nobody is registered with a session that has just been opened
  | opened idle reader manager notifier faces agenda =>
    refine ⟨?_, ?_, by simp [agenda]⟩
    · intro player entry found
      rw [notifier] at found
      obtain ⟨face, present, own, told, opened⟩ := holds.entry player entry found
      rw [idle] at opened
      obtain same | ⟨absent, _⟩ := faces entry.session
      · exact ⟨face, same.trans present, own, told, agenda.symm ▸ opened⟩
      · rw [present] at absent
        cases absent
    · intro player
      rw [notifier, manager]
      exact holds.covered player
  -- handing out a message adds only writes to the agenda
  | handed handing keeps receiver agenda =>
    have head : ∀ id, before.agenda.head? ≠ some (.finishClose id) := by
      intro id same
      obtain told | ⟨told, _⟩ := handing <;> simp [told] at same
    have plain : ∀ (message : ServerMessage) (ids : List SessionId),
        ∀ task ∈ ids.map fun id => Task.sendPacket id message, task.plain := by
      intro message ids task member
      obtain ⟨_, _, rfl⟩ := List.mem_map.mp member
      rfl
    exact holds.still keeps.notifier keeps.face (finishClose_mem (plain _ _) agenda head)
      fun _ marked => by rwa [Marked, keeps.manager]
  | @acted _ id face answered tasks idle reader present placed effect notifier faces agenda plain =>
    refine holds.acted ?_ effect notifier faces idle ?_
    · intro named
      -- a session whose entry is gone would be displaced, and would not act
      obtain ⟨token, told⟩ := Option.ne_none_iff_exists'.mp (tokens.told id face present named)
      intro absent
      have displaced : face.displaced before.notifier := by
        refine displaced_iff.mpr ⟨named, token, told, ?_⟩
        rw [PlayerNotifier.isCurrent_iff]
        simp [absent]
      rw [placed] at displaced
      cases displaced
    · intro other
      rw [agenda, idle, List.tail_nil, List.append_nil]
      exact notMem_plain plain other
  | @loggedIn _ index completion tasks idle kind found success manager notifier faces agenda plain =>
    -- by the condition the session is open, and no other one is current for it
    obtain ⟨session, present, opened, same⟩ := inTime index completion idle kind found success
    refine holds.loggedIn idle (face_of_session present) opened ?_ manager notifier faces ?_
    · intro token told current
      apply same
      have own : session.notifierToken = some token := told
      rw [Session.registered, own]
      exact current
    · intro other
      rw [agenda, idle, List.tail_nil, List.append_nil]
      exact notMem_plain plain other
  -- by the condition a session that is named in an entry is current, and so not stale
  | @closed _ id face kind head present opened stale manager notifier faces agenda =>
    refine holds.closed present ?_ manager notifier faces (finishClose_mem plain_nil agenda ?_)
    · intro entry registered told
      obtain ⟨session, rfl, closes⟩ :=
        closes_of_face ⟨before, event, moment, _, after⟩ kind head present opened
      have current : before.notifier.isCurrent session.playerId entry.token :=
        PlayerNotifier.isCurrent_iff.mpr ⟨entry, registered, rfl⟩
      have own : session.notifierToken = some entry.token := told
      have named := closesNamed session closes (by rw [Session.registered, own]; exact current)
      rw [current_iff.mpr ⟨named, entry.token, told, current⟩] at stale
      cases stale
    · simp [head]
  | @closing _ id face now tasks kind head present opened current manager notifier faces agenda told =>
    refine holds.begins present manager notifier faces ?_
    intro other
    have split : before.agenda = .close id :: before.agenda.tail := List.eq_cons_of_mem_head? head
    have fresh : .finishClose other ∉ tasks := by
      intro member
      obtain ⟨_, _, same⟩ := told _ member
      cases same
    rw [agenda, split]
    simp [fresh]
  | finished kind head manager notifier faces agenda =>
    exact holds.finished head manager notifier faces agenda
  | cleaned tasks shrinks reader unfinished unclosed notifier faces agenda plain =>
    exact holds.still notifier faces (finishClose_mem plain agenda unfinished)
      fun _ marked => marked.shrinks shrinks

/-- No close waits for messages to be handed out first. -/
def GatewayProcess.Tidy (gateway : GatewayProcess ρ) : Prop :=
  ∀ id, .finishClose id ∉ gateway.agenda.tail

theorem tidy_plain {gateway : GatewayProcess ρ} (tidy : gateway.Tidy) {tasks agenda : List Task}
    (plain : ∀ task ∈ tasks, task.plain) (after : agenda = tasks ++ gateway.agenda.tail) (id : SessionId) :
    .finishClose id ∉ agenda.tail := by
  intro member
  have inside := List.mem_of_mem_tail member
  rw [after] at inside
  obtain new | old := List.mem_append.mp inside
  · exact notMem_plain plain id new
  · exact tidy id old

theorem tidy_move {taken : Taken ρ} (tidy : taken.before.Tidy)
    (move : GatewayMove taken.before taken.event taken.notes taken.after)
    (unseated : taken.ClosesUnseated) : taken.after.Tidy := by
  obtain ⟨before, event, moment, notes, after⟩ := taken
  simp only at tidy move
  cases move with
  | stalled => exact tidy
  | other _ _ agenda plain => exact tidy_plain tidy plain agenda
  | opened _ _ _ _ _ agenda =>
    intro id
    rw [agenda]
    exact List.not_mem_nil
  | handed _ _ _ agenda =>
    refine tidy_plain tidy ?_ agenda
    intro task member
    obtain ⟨_, _, rfl⟩ := List.mem_map.mp member
    rfl
  | acted _ _ _ _ _ _ _ agenda plain => exact tidy_plain tidy plain agenda
  | loggedIn _ _ _ _ _ _ _ agenda plain => exact tidy_plain tidy plain agenda
  | closed _ _ _ _ _ _ _ _ agenda => exact tidy_plain tidy plain_nil agenda
  | closing tasks kind head present opened current _ _ _ agenda _ alone =>
    obtain ⟨session, rfl, closes⟩ :=
      closes_of_face ⟨before, event, moment, _, after⟩ kind head present opened
    intro id
    rw [agenda, alone (unseated session closes current)]
    exact tidy id
  | finished _ _ _ _ _ agenda => exact tidy_plain tidy plain_nil agenda
  | cleaned _ _ _ _ _ _ _ agenda plain => exact tidy_plain tidy plain agenda

/-- A message is handed to an open session that acts as the player. -/
theorem handed_open {before after : GatewayProcess ρ} {event : Event} {notes : List Note}
    (holds : AgreeInv before) (tidy : before.Tidy) (move : GatewayMove before event notes after)
    {player : PlayerId} {message : ServerMessage} {id : SessionId}
    (handed : .handed player message (some id) ∈ notes) :
    ∃ session, before.sessions[id]? = some session ∧ session.closed = false ∧
      session.playerId = player := by
  cases move with
  | @handed _ name told receiver handing keeps same agenda =>
    simp only [List.mem_singleton, Note.handed.injEq] at handed
    obtain ⟨rfl, rfl, rfl⟩ := handed
    obtain ⟨entry, registered, rfl⟩ := Option.map_eq_some_iff.mp same.symm
    have unfinished : ∀ id, .finishClose id ∉ before.agenda := by
      intro id closing
      cases rest : before.agenda with
      | nil => simp [rest] at closing
      | cons task rest' =>
        rw [rest] at closing
        obtain same | later := List.mem_cons.mp closing
        · obtain told | ⟨told, _⟩ := handing <;> simp [rest, ← same] at told
        · exact tidy id (by rwa [rest, List.tail_cons])
    obtain ⟨face, found, own, _, opened⟩ := holds.open unfinished registered
    obtain ⟨session, present, rfl⟩ := session_of_face found
    exact ⟨session, present, opened, own⟩
  | acted | loggedIn => simp at handed
  | _ => cases handed

/-! ## Runs -/

theorem agree_run {random : ρ} {trace : List (Taken ρ)} {finish : GatewayProcess ρ}
    (run : Transition.Steps (GatewayStep shuffler protobuf) { manager := { random } } trace finish)
    (inTime : ∀ taken ∈ trace, taken.LoginInTime) (closesNamed : ∀ taken ∈ trace, taken.ClosesNamed) :
    AgreeInv finish ∧ ((∀ taken ∈ trace, taken.ClosesUnseated) → finish.Tidy) := by
  suffices ManagerInv finish.manager ∧ TokenInv trace finish ∧
      ((∀ taken ∈ trace, taken.LoginInTime) → (∀ taken ∈ trace, taken.ClosesNamed) →
        AgreeInv finish ∧ ((∀ taken ∈ trace, taken.ClosesUnseated) → finish.Tidy)) from
    this.2.2 inTime closesNamed
  refine gateway_history (fun trace gateway => TokenInv trace gateway ∧
      ((∀ taken ∈ trace, taken.LoginInTime) → (∀ taken ∈ trace, taken.ClosesNamed) →
        AgreeInv gateway ∧ ((∀ taken ∈ trace, taken.ClosesUnseated) → gateway.Tidy))) run
    ⟨tokenInv_start random, fun _ _ => ⟨agreeInv_start random, by simp [GatewayProcess.Tidy]⟩⟩ ?_
  rintro trace before taken rfl ⟨tokens, holds⟩ move
  refine ⟨tokenInv_move tokens move, ?_⟩
  simp only [List.forall_mem_append, List.forall_mem_singleton]
  rintro ⟨inTime, lastInTime⟩ ⟨closesNamed, lastNamed⟩
  obtain ⟨agrees, tidy⟩ := holds inTime closesNamed
  refine ⟨agreeInv_move tokens agrees move lastInTime lastNamed, ?_⟩
  rintro ⟨unseated, lastUnseated⟩
  exact tidy_move (tidy unseated) move lastUnseated

/-- Whatever comes in, and in whatever order, as long as logins are completed in time and no
    session closes that is registered without a name: between handlers the sessions and the
    notifier agree, and the players of rooms without a session are marked offline.  When
    besides no session closes while its player sits in a game, every message is handed to
    an open session that acts as the player. -/
theorem notifier_agrees (shuffler : Shuffler ρ) (protobuf : Protobuf) (random : ρ)
    (inputs : List (Event × Moment)) :
    ∃ trace finish, ({ manager := { random } } : GatewayProcess ρ).run shuffler protobuf inputs =
        .ok (trace, finish) ∧
      ((∀ taken ∈ trace, taken.LoginInTime ∧ taken.ClosesNamed) →
        (finish.agenda = [] → finish.Agrees ∧ finish.MarksAbsent) ∧
        ((∀ taken ∈ trace, taken.ClosesUnseated) →
          ∀ taken ∈ trace, ∀ player message id, .handed player message (some id) ∈ taken.notes →
            ∃ session, taken.before.sessions[id]? = some session ∧ session.closed = false ∧
              session.playerId = player)) := by
  obtain ⟨trace, finish, ran, run⟩ := gateway_runs shuffler protobuf random inputs
  refine ⟨trace, finish, ran, fun orderly => ⟨?_, ?_⟩⟩
  · intro idle
    obtain ⟨agrees, _⟩ := agree_run run (fun taken member => (orderly taken member).1)
      fun taken member => (orderly taken member).2
    constructor
    · intro player entry found
      obtain ⟨face, present, own, told, opened⟩ := agrees.open (by simp [idle]) found
      obtain ⟨session, here, rfl⟩ := session_of_face present
      exact ⟨session, here, opened, own, told⟩
    · intro player seated absent
      obtain registered | unseated | marked := agrees.covered player
      · exact absurd absent registered
      · exact absurd unseated seated
      · exact marked
  · intro unseated taken member player message id handed
    obtain ⟨earlier, later, rfl⟩ := List.append_of_mem member
    obtain ⟨before, after, run, step, _⟩ := run.split_cons
    have sooner : ∀ other ∈ earlier, other ∈ earlier ++ taken :: later :=
      fun other inside => List.mem_append_left _ inside
    obtain ⟨agrees, tidy⟩ := agree_run run (fun other inside => (orderly other (sooner other inside)).1)
      fun other inside => (orderly other (sooner other inside)).2
    obtain ⟨_, move⟩ := step.moves (tokenInv_run run).1
    rw [step.1]
    exact handed_open agrees (tidy fun other inside => unseated other (sooner other inside)) move handed

/-! ## A login that comes too late -/

/-- All clocks stand still. -/
def Moment.still : Moment where
  packetAt := 0
  startedAt := 0
  now := 0
  endedAt := 0
  systemTime := 0
  rooms := .ascending
  players := .ascending
  roomStartedAt := fun _ => 0

def atOnce (events : List Event) : List (Event × Moment) := events.map fun event => (event, .still)

/-- A packet arrives at a TCP session. -/
def packetArrives (session : SessionId) (id : MessageId) (body : Bytes) : List Event :=
  let header := PacketCodec.encodeHeader
    { packetSize := PacketCodec.headerSize + body.length, messageId := id.number }
  .headerRead session (some header) :: if body = [] then [] else [.bodyRead session (some body)]

def loginArrives (session : SessionId) (player : PlayerId) : List Event :=
  packetArrives session .c2sLogin (Proto3.stringField 1 player)

/-- The backend answers the login of the player, which is its first job. -/
def loginAnswered (player : PlayerId) : List Event :=
  [.jobDone 0 { success := true, playerId := player, coins := 1000, message := "" }, .loginCompleted 0]

/-- A session asks to log in, and its heartbeat expires before the backend answers. -/
def expiresWhileLoggingIn : List (Event × Moment) :=
  atOnce ([.accepted .tcp] ++ loginArrives 0 "ann" ++ [.heartbeatExpired 0, .next] ++
    loginAnswered "ann" ++ [.next])

/-- The session of the entry of the player is closed. -/
def GatewayProcess.dangles (gateway : GatewayProcess ρ) (player : PlayerId) : Bool :=
  match gateway.notifier.senders.lookup player with
  | none => false
  | some entry => gateway.sessions[entry.session]?.all Session.closed

theorem GatewayProcess.not_agrees {gateway : GatewayProcess ρ} {player : PlayerId}
    (dangles : gateway.dangles player) : ¬ gateway.Agrees := by
  intro agrees
  unfold GatewayProcess.dangles at dangles
  split at dangles
  · cases dangles
  · next entry found =>
    obtain ⟨session, present, opened, _⟩ := agrees player entry found
    rw [present, Option.all_some, opened] at dangles
    cases dangles

/-- The session that was closed while it logged in is registered, and stays so. -/
theorem late_login_dangles : ∃ trace finish,
    ({ manager := { random := () } } : GatewayProcess Unit).run .identity WireFormat.generated
      expiresWhileLoggingIn = .ok (trace, finish) ∧
    finish.agenda = [] ∧ ¬ finish.Agrees := by
  obtain ⟨⟨trace, finish⟩, ran, passes⟩ := ExceptLoop.exists_of_test
    (show ExceptLoop.test (fun (_, finish) => finish.agenda.isEmpty && finish.dangles "ann")
      (({ manager := { random := () } } : GatewayProcess Unit).run .identity WireFormat.generated
        expiresWhileLoggingIn) = true by
    decide +kernel)
  rw [Bool.and_eq_true, List.isEmpty_iff] at passes
  exact ⟨trace, finish, ran, passes.1, GatewayProcess.not_agrees passes.2⟩

end Doudizhu.Gateway
