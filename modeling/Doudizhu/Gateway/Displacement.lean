import Doudizhu.Gateway.SessionRuns

/-! # Displaced sessions

The tokens of the notifier tell the sessions apart.  Only the session that registered for a
player last acts for that player; one that has been displaced changes and reads nothing of
the player's game until it logs in again, and its end goes unnoticed.
-/

namespace Doudizhu.Gateway

open Game

variable {ρ : Type} {shuffler : Shuffler ρ} {protobuf : Protobuf}

/-! ## Tokens -/

/-- What the tokens are good for.  The trace shows the logins so far. -/
structure TokenInv (trace : List (Taken ρ)) (gateway : GatewayProcess ρ) : Prop where
  entry : ∀ player entry, gateway.notifier.senders.lookup player = some entry →
    entry.token < gateway.notifier.nextToken
  below : ∀ id face token, gateway.face id = some face → face.notifierToken = some token →
    token < gateway.notifier.nextToken
  distinct : ∀ one other left right token, gateway.face one = some left →
    gateway.face other = some right → left.notifierToken = some token →
    right.notifierToken = some token → one = other
  told : ∀ id face, gateway.face id = some face → face.playerId ≠ "" → face.notifierToken ≠ none
  login : ∀ id face, gateway.face id = some face → face.playerId ≠ "" →
    ∃ taken ∈ trace, .loggedIn id face.playerId ∈ taken.notes
  nobody : gateway.manager.playerRooms.lookup "" = none

theorem tokenInv_start (random : ρ) : TokenInv [] ({ manager := { random } } : GatewayProcess ρ) := by
  constructor <;> simp [GatewayProcess.face]

theorem released_nextToken (notifier : PlayerNotifier) (face : Option Face) :
    (released notifier face).nextToken = notifier.nextToken := by
  unfold released
  split
  · exact PlayerNotifier.unregister_nextToken
  · rfl

theorem released_entry {notifier : PlayerNotifier} {face : Option Face} {player : PlayerId}
    {entry : NotifierEntry} (found : (released notifier face).senders.lookup player = some entry) :
    notifier.senders.lookup player = some entry := by
  unfold released at found
  split at found
  · exact (PlayerNotifier.find_unregister.mp found).1
  · exact found

/-- Faces that differ in `closed` only. -/
def SameActor (old new : Face) : Prop :=
  old.playerId = new.playerId ∧ old.notifierToken = new.notifierToken

section Tokens

variable {trace : List (Taken ρ)} {before after : GatewayProcess ρ} {taken : Taken ρ}

/-- Steps that give out no token: sessions appear or close, and entries go. -/
theorem TokenInv.frame (holds : TokenInv trace before)
    (counter : after.notifier.nextToken = before.notifier.nextToken)
    (entries : ∀ player entry, after.notifier.senders.lookup player = some entry →
      before.notifier.senders.lookup player = some entry)
    (faces : ∀ id face, after.face id = some face →
      face = ⟨"", none, false⟩ ∨ ∃ old, before.face id = some old ∧ SameActor old face)
    (nobody : after.manager.playerRooms.lookup "" = none) : TokenInv (trace ++ [taken]) after := by
  have actor : ∀ id face, after.face id = some face →
      (face.playerId ≠ "" ∨ face.notifierToken ≠ none) →
      ∃ old, before.face id = some old ∧ SameActor old face := by
    intro id face found acts
    obtain rfl | old := faces id face found
    · obtain named | told := acts
      · exact absurd rfl named
      · exact absurd rfl told
    · exact old
  constructor
  · intro player entry found
    rw [counter]
    exact holds.entry player entry (entries player entry found)
  · intro id face token found own
    obtain ⟨old, present, same⟩ := actor id face found (.inr (by simp [own]))
    rw [counter]
    exact holds.below id old token present (same.2.trans own)
  · intro one other left right token foundLeft foundRight ownLeft ownRight
    obtain ⟨first, presentLeft, sameLeft⟩ := actor one left foundLeft (.inr (by simp [ownLeft]))
    obtain ⟨second, presentRight, sameRight⟩ := actor other right foundRight (.inr (by simp [ownRight]))
    exact holds.distinct one other first second token presentLeft presentRight
      (sameLeft.2.trans ownLeft) (sameRight.2.trans ownRight)
  · intro id face found named
    obtain ⟨old, present, same⟩ := actor id face found (.inl named)
    rw [← same.2]
    exact holds.told id old present (same.1 ▸ named)
  · intro id face found named
    obtain ⟨old, present, same⟩ := actor id face found (.inl named)
    obtain ⟨earlier, member, noted⟩ := holds.login id old present (same.1 ▸ named)
    exact ⟨earlier, List.mem_append_left _ member, same.1 ▸ noted⟩
  · exact nobody

/-- Steps that leave the notifier alone. -/
theorem TokenInv.still (holds : TokenInv trace before) (notifier : after.notifier = before.notifier)
    (faces : ∀ id face, after.face id = some face →
      face = ⟨"", none, false⟩ ∨ ∃ old, before.face id = some old ∧ SameActor old face)
    (nobody : after.manager.playerRooms.lookup "" = none) : TokenInv (trace ++ [taken]) after := by
  apply holds.frame _ _ faces nobody
  · rw [notifier]
  · rw [notifier]
    exact fun _ _ found => found

/-- The faces of a step after which one session may be closed. -/
theorem actor_closed {id : SessionId} {own : Face} (present : before.face id = some own)
    (faces : ∀ other, after.face other =
      if other = id then some { own with closed := true } else before.face other)
    {other : SessionId} {face : Face} (found : after.face other = some face) :
    ∃ old, before.face other = some old ∧ SameActor old face := by
  rw [faces] at found
  split at found
  · next same =>
    cases found
    exact ⟨own, same ▸ present, rfl, rfl⟩
  · exact ⟨face, found, rfl, rfl⟩

/-- A login gives its session a token of its own. -/
theorem TokenInv.loggedIn (holds : TokenInv trace before) {session : SessionId} {player : PlayerId}
    (notes : .loggedIn session player ∈ taken.notes)
    (rooms : after.manager.playerRooms = before.manager.playerRooms)
    (notifier : after.notifier = (before.notifier.registerPlayer player session).2)
    (faces : ∀ id, after.face id = if id = session then (before.face id).map fun face =>
      ⟨player, some before.notifier.nextToken, face.closed⟩ else before.face id) :
    TokenInv (trace ++ [taken]) after := by
  have counter : after.notifier.nextToken = before.notifier.nextToken + 1 := by rw [notifier]; rfl
  -- the session that logged in, with the new token, or another session as it was
  have actor : ∀ id face, after.face id = some face →
      (id = session ∧ face.playerId = player ∧ face.notifierToken = some before.notifier.nextToken) ∨
        before.face id = some face := by
    intro id face found
    rw [faces] at found
    split at found
    · next own =>
      obtain ⟨old, _, rfl⟩ := Option.map_eq_some_iff.mp found
      exact .inl ⟨own, rfl, rfl⟩
    · exact .inr found
  constructor
  · intro other entry found
    rw [notifier, PlayerNotifier.find_register] at found
    rw [counter]
    split at found
    · cases found
      exact Nat.lt_succ_self _
    · exact (holds.entry other entry found).trans (Nat.lt_succ_self _)
  · intro id face token found own
    rw [counter]
    obtain ⟨_, _, new⟩ | old := actor id face found
    · rw [new] at own
      cases own
      exact Nat.lt_succ_self _
    · exact (holds.below id face token old own).trans (Nat.lt_succ_self _)
  · intro one other left right token foundLeft foundRight ownLeft ownRight
    -- no session had the new token before
    have fresh : ∀ id face, before.face id = some face →
        face.notifierToken ≠ some before.notifier.nextToken :=
      fun id face old same => (holds.below id face _ old same).false
    obtain ⟨leftNew, _, newLeft⟩ | oldLeft := actor one left foundLeft <;>
      obtain ⟨rightNew, _, newRight⟩ | oldRight := actor other right foundRight
    · rw [leftNew, rightNew]
    · rw [newLeft] at ownLeft
      exact absurd (ownRight.trans ownLeft.symm) (fresh other right oldRight)
    · rw [newRight] at ownRight
      exact absurd (ownLeft.trans ownRight.symm) (fresh one left oldLeft)
    · exact holds.distinct one other left right token oldLeft oldRight ownLeft ownRight
  · intro id face found named
    obtain ⟨_, _, new⟩ | old := actor id face found
    · simp [new]
    · exact holds.told id face old named
  · intro id face found named
    obtain ⟨rfl, own, _⟩ | old := actor id face found
    · exact ⟨taken, by simp, own ▸ notes⟩
    · obtain ⟨earlier, member, noted⟩ := holds.login id face old named
      exact ⟨earlier, List.mem_append_left _ member, noted⟩
  · rw [rooms]
    exact holds.nobody

/-- No call lets a player without a name into a room. -/
theorem CallEffect.nobody {player : PlayerId} {answered : Bool} {earlier later : RoomManager ρ}
    (effect : CallEffect player answered earlier later)
    (empty : earlier.playerRooms.lookup "" = none) : later.playerRooms.lookup "" = none := by
  obtain ⟨shrinks, _⟩ | ⟨named, _, others⟩ := effect
  · obtain gone | ⟨same, _⟩ := shrinks ""
    · exact gone
    · exact same.trans empty
  · exact (others "" named.symm).trans empty

theorem tokenInv_move (holds : TokenInv trace before)
    (move : GatewayMove before taken.event taken.notes taken.after) :
    TokenInv (trace ++ [taken]) taken.after := by
  have unseen : ∀ {gateway : GatewayProcess ρ}, (∀ id, gateway.face id = before.face id) →
      ∀ id face, gateway.face id = some face →
        face = ⟨"", none, false⟩ ∨ ∃ old, before.face id = some old ∧ SameActor old face :=
    fun faces id face found => .inr ⟨face, (faces id).symm.trans found, rfl, rfl⟩
  obtain ⟨_, event, moment, notes, after⟩ := taken
  cases move with
  | stalled => exact holds.still rfl (unseen fun _ => rfl) holds.nobody
  | other tasks keeps =>
    exact holds.still keeps.notifier (unseen keeps.face) (by rw [keeps.manager]; exact holds.nobody)
  | handed handing keeps =>
    exact holds.still keeps.notifier (unseen keeps.face) (by rw [keeps.manager]; exact holds.nobody)
  | opened idle reader manager notifier faces =>
    refine holds.still notifier ?_ (by rw [manager]; exact holds.nobody)
    intro id face found
    obtain same | ⟨_, new⟩ := faces id
    · exact .inr ⟨face, same.symm.trans found, rfl, rfl⟩
    · exact .inl (Option.some.inj (found.symm.trans new))
  | acted idle reader present placed effect notifier faces =>
    exact holds.still notifier (unseen faces) (effect.nobody holds.nobody)
  | loggedIn idle event found success manager notifier faces =>
    exact holds.loggedIn (by simp) (by rw [manager]; rfl) notifier faces
  | closed kind head present opened stale manager notifier faces =>
    exact holds.still notifier
      (fun _ _ found => .inr (actor_closed present faces found)) (by rw [manager]; exact holds.nobody)
  | closing tasks kind head present opened current manager notifier faces =>
    refine holds.still notifier
      (fun _ _ found => .inr (actor_closed present faces found)) ?_
    rw [manager, markOffline_playerRooms]
    exact holds.nobody
  | finished kind head manager notifier faces =>
    refine holds.frame ?_ ?_ (unseen faces) (by rw [manager]; exact holds.nobody)
    · rw [notifier]
      exact released_nextToken ..
    · intro player entry found
      rw [notifier] at found
      exact released_entry found
  | cleaned tasks shrinks reader unfinished unclosed notifier faces =>
    refine holds.still notifier (unseen faces) ?_
    obtain gone | ⟨same, _⟩ := shrinks ""
    · exact gone
    · exact same.trans holds.nobody

end Tokens

/-! ## Displacement -/

/-- The session does not act for the player, or the notifier has another token for the
    player by now. -/
def Apart (first : SessionId) (player : PlayerId) (gateway : GatewayProcess ρ) : Prop :=
  ∀ face, gateway.face first = some face → face.playerId = player →
    face.displaced gateway.notifier

theorem displaced_iff {face : Face} {notifier : PlayerNotifier} : face.displaced notifier ↔
    face.playerId ≠ "" ∧ ∃ token, face.notifierToken = some token ∧
      ¬ notifier.isCurrent face.playerId token := by
  unfold Face.displaced
  cases face.notifierToken <;> simp

theorem current_iff {face : Face} {notifier : PlayerNotifier} : face.current notifier ↔
    face.playerId ≠ "" ∧ ∃ token, face.notifierToken = some token ∧
      notifier.isCurrent face.playerId token := by
  unfold Face.current
  cases face.notifierToken <;> simp

/-- A session that is displaced is not current. -/
theorem Face.displaced_not_current {face : Face} {notifier : PlayerNotifier}
    (displaced : face.displaced notifier) : ¬ face.current notifier := by
  intro current
  obtain ⟨_, token, own, stale⟩ := displaced_iff.mp displaced
  obtain ⟨_, _, same, fresh⟩ := current_iff.mp current
  rw [own, Option.some.injEq] at same
  exact stale (same ▸ fresh)

/-- The session acts as the player, with the token that the notifier has for the player. -/
def GatewayProcess.Holds (gateway : GatewayProcess ρ) (id : SessionId) (player : PlayerId) : Prop :=
  ∃ session entry, gateway.sessions[id]? = some session ∧ session.playerId = player ∧
    gateway.notifier.senders.lookup player = some entry ∧ session.notifierToken = some entry.token

theorem session_of_face {gateway : GatewayProcess ρ} {id : SessionId} {face : Face}
    (found : gateway.face id = some face) :
    ∃ session, gateway.sessions[id]? = some session ∧ session.face = face :=
  Option.map_eq_some_iff.mp found

section Displacement

variable {trace : List (Taken ρ)} {before after : GatewayProcess ρ} {event : Event} {notes : List Note}
  {first second : SessionId} {player : PlayerId}

/-- What a step notes of a session that acts: no displaced session does. -/
theorem acted_inv (move : GatewayMove before event notes after) {answered : Bool}
    (acted : .acted first player answered ∈ notes) :
    ∃ face, before.face first = some face ∧ face.playerId = player ∧
      face.displaced before.notifier = false ∧
      CallEffect player answered before.manager after.manager := by
  cases move with
  | acted idle reader present placed effect =>
    simp only [List.mem_singleton, Note.acted.injEq] at acted
    obtain ⟨rfl, rfl, rfl⟩ := acted
    exact ⟨_, present, rfl, placed, effect⟩
  | handed | loggedIn => simp at acted
  | _ => cases acted

/-- A session that acts for a player, and finds a game or enters one, has the player's token. -/
theorem acted_holds (holds : TokenInv trace before) (move : GatewayMove before event notes after)
    (acted : .acted first player true ∈ notes) :
    before.Holds first player ∧ ∃ login ∈ trace, .loggedIn first player ∈ login.notes := by
  obtain ⟨face, found, rfl, placed, effect⟩ := acted_inv move acted
  have named : face.playerId ≠ "" := by
    obtain ⟨_, seated⟩ | ⟨named, _⟩ := effect
    · intro unnamed
      rw [unnamed] at seated
      exact seated rfl holds.nobody
    · exact named
  obtain ⟨token, own⟩ := Option.ne_none_iff_exists'.mp (holds.told first face found named)
  have current : before.notifier.isCurrent face.playerId token := by
    by_contra stale
    have displaced := displaced_iff.mpr ⟨named, token, own, stale⟩
    rw [placed] at displaced
    cases displaced
  obtain ⟨entry, registered, same⟩ := PlayerNotifier.isCurrent_iff.mp current
  obtain ⟨session, present, rfl⟩ := session_of_face found
  exact ⟨⟨session, entry, present, rfl, registered, own.trans (congrArg some same.symm)⟩,
    holds.login first session.face found named⟩

/-- When a second session logs in, the first one loses the player. -/
theorem apart_of_login (holds : TokenInv trace before) (move : GatewayMove before event notes after)
    (loggedIn : .loggedIn second player ∈ notes) (named : player ≠ "") (differ : first ≠ second) :
    Apart first player after := by
  cases move with
  | loggedIn idle kind found success manager notifier faces =>
    simp only [List.mem_singleton, Note.loggedIn.injEq] at loggedIn
    obtain ⟨rfl, rfl⟩ := loggedIn
    intro face present own
    rw [faces, if_neg differ] at present
    obtain ⟨token, told⟩ :=
      Option.ne_none_iff_exists'.mp (holds.told first face present (own ▸ named))
    have older := holds.below first face token present told
    refine displaced_iff.mpr ⟨own ▸ named, token, told, ?_⟩
    intro current
    obtain ⟨entry, registered, same⟩ := PlayerNotifier.isCurrent_iff.mp current
    rw [notifier, PlayerNotifier.find_register, if_pos own] at registered
    cases registered
    exact older.ne same.symm
  | handed | acted => simp at loggedIn
  | _ => cases loggedIn

/-- A displaced session stays displaced when the notifier gives out no token for the player. -/
theorem apart_frame (apart : Apart first player before)
    (faces : ∀ face, after.face first = some face →
      face = ⟨"", none, false⟩ ∨ ∃ old, before.face first = some old ∧ SameActor old face)
    (named : player ≠ "")
    (entries : ∀ entry, after.notifier.senders.lookup player = some entry →
      before.notifier.senders.lookup player = some entry) : Apart first player after := by
  rintro face found rfl
  obtain rfl | ⟨old, present, same⟩ := faces face found
  · exact absurd rfl named
  · obtain ⟨_, token, own, stale⟩ := displaced_iff.mp (apart old present same.1)
    refine displaced_iff.mpr ⟨named, token, same.2.symm.trans own, ?_⟩
    intro current
    obtain ⟨entry, registered, equal⟩ := PlayerNotifier.isCurrent_iff.mp current
    rw [same.1] at stale
    exact stale (PlayerNotifier.isCurrent_iff.mpr ⟨entry, entries entry registered, equal⟩)

/-- A displaced session stays displaced until it logs in again. -/
theorem apart_move (holds : TokenInv trace before) (apart : Apart first player before)
    (move : GatewayMove before event notes after) (named : player ≠ "")
    (away : .loggedIn first player ∉ notes) : Apart first player after := by
  have unseen : ∀ {gateway : GatewayProcess ρ}, (∀ id, gateway.face id = before.face id) →
      ∀ face, gateway.face first = some face →
        face = ⟨"", none, false⟩ ∨ ∃ old, before.face first = some old ∧ SameActor old face :=
    fun faces face found => .inr ⟨face, (faces first).symm.trans found, rfl, rfl⟩
  cases move with
  | stalled => exact apart
  | other tasks keeps =>
    exact apart_frame apart (unseen keeps.face) named (by rw [keeps.notifier]; exact fun _ => id)
  | handed handing keeps =>
    exact apart_frame apart (unseen keeps.face) named (by rw [keeps.notifier]; exact fun _ => id)
  | opened idle reader manager notifier faces =>
    refine apart_frame apart ?_ named (by rw [notifier]; exact fun _ => id)
    intro face found
    obtain same | ⟨_, new⟩ := faces first
    · exact .inr ⟨face, same.symm.trans found, rfl, rfl⟩
    · exact .inl (Option.some.inj (found.symm.trans new))
  | acted idle reader present placed effect notifier faces =>
    exact apart_frame apart (unseen faces) named (by rw [notifier]; exact fun _ => id)
  | @loggedIn _ index completion tasks idle kind found success manager notifier faces =>
    rintro face present own
    rw [faces] at present
    split at present
    · next same =>
      -- a login under another name
      obtain ⟨old, _, rfl⟩ := Option.map_eq_some_iff.mp present
      subst same own
      simp at away
    · obtain ⟨_, token, told, stale⟩ := displaced_iff.mp (apart face present own)
      refine displaced_iff.mpr ⟨own ▸ named, token, told, ?_⟩
      intro current
      obtain ⟨entry, registered, equal⟩ := PlayerNotifier.isCurrent_iff.mp current
      rw [notifier, PlayerNotifier.find_register] at registered
      split at registered
      · cases registered
        exact (holds.below first face token present told).ne equal.symm
      · exact stale (PlayerNotifier.isCurrent_iff.mpr ⟨entry, registered, equal⟩)
  | closed kind head present opened stale manager notifier faces =>
    exact apart_frame apart (fun _ found => .inr (actor_closed present faces found)) named
      (by rw [notifier]; exact fun _ => id)
  | closing tasks kind head present opened current manager notifier faces =>
    exact apart_frame apart (fun _ found => .inr (actor_closed present faces found)) named
      (by rw [notifier]; exact fun _ => id)
  | finished kind head manager notifier faces =>
    exact apart_frame apart (unseen faces) named
      (by rw [notifier]; exact fun _ found => released_entry found)
  | cleaned tasks shrinks reader unfinished unclosed notifier faces =>
    exact apart_frame apart (unseen faces) named (by rw [notifier]; exact fun _ => id)

/-- What a displaced session reads goes nowhere. -/
theorem apart_reads (apart : Apart first player before) (move : GatewayMove before event notes after)
    (reads : event.reader = some first) {face : Face} (found : before.face first = some face)
    (own : face.playerId = player) :
    after.manager = before.manager ∧ after.notifier = before.notifier := by
  cases move with
  | stalled => exact ⟨rfl, rfl⟩
  | other tasks keeps => exact ⟨keeps.manager, keeps.notifier⟩
  | handed handing keeps => exact ⟨keeps.manager, keeps.notifier⟩
  | acted idle reader present placed =>
    rw [reads, Option.some.injEq] at reader
    subst reader
    rw [found, Option.some.injEq] at present
    subst present
    rw [apart face found own] at placed
    cases placed
  | opened _ reader => rw [reads] at reader; cases reader
  | loggedIn _ kind => rw [kind] at reads; cases reads
  | closed kind head present opened stale manager notifier => exact ⟨manager, notifier⟩
  | closing _ kind | finished kind => rw [kind] at reads; cases reads
  | cleaned _ _ reader => rw [reads] at reader; cases reader

theorem find_markOffline {manager : RoomManager ρ} {other : PlayerId} (differ : other ≠ player)
    (now : Time) :
    (manager.markOffline player now).offlineSince.lookup other = manager.offlineSince.lookup other := by
  unfold RoomManager.markOffline
  split
  · rw [UnorderedMap.find_emplace, if_neg differ]
  · rfl

/-- A session that does not hold the token of the player cannot give up its entry. -/
theorem find_released {notifier : PlayerNotifier} {face : Option Face}
    (apart : ∀ own, face = some own → own.playerId = player → own.displaced notifier) :
    (released notifier face).senders.lookup player = notifier.senders.lookup player := by
  unfold released
  split
  · next name token closed =>
    by_cases own : name = player
    · subst own
      obtain ⟨_, _, same, stale⟩ := displaced_iff.mp (apart _ rfl rfl)
      cases same
      rw [PlayerNotifier.unregister_stale stale]
    · unfold PlayerNotifier.unregisterPlayer
      split
      · exact (UnorderedMap.find_erase ..).trans (if_neg fun same => own same.symm)
      · rfl
  · rfl

/-- The end of a displaced session leaves the player online and registered. -/
theorem apart_closes (apart : Apart first player before) (move : GatewayMove before event notes after)
    (closes : before.agenda.head? = some (.close first) ∨
      before.agenda.head? = some (.finishClose first)) :
    after.manager.offlineSince.lookup player = before.manager.offlineSince.lookup player ∧
      after.notifier.senders.lookup player = before.notifier.senders.lookup player := by
  have busy : before.agenda ≠ [] := by
    intro idle
    simp [idle] at closes
  cases move with
  | stalled => exact ⟨rfl, rfl⟩
  | other tasks keeps => rw [keeps.manager, keeps.notifier]; exact ⟨rfl, rfl⟩
  | handed handing keeps => rw [keeps.manager, keeps.notifier]; exact ⟨rfl, rfl⟩
  | opened idle | acted idle | loggedIn idle => exact absurd idle busy
  | closed kind head present opened stale manager notifier => rw [manager, notifier]; exact ⟨rfl, rfl⟩
  | closing tasks kind head present opened current manager notifier =>
    rw [head] at closes
    obtain ⟨⟨⟩⟩ | ⟨⟨⟩⟩ := closes
    rw [manager, notifier]
    refine ⟨find_markOffline ?_ _, rfl⟩
    rintro rfl
    exact Face.displaced_not_current (apart _ present rfl) current
  | finished kind head manager notifier =>
    rw [head] at closes
    obtain ⟨⟨⟩⟩ | ⟨⟨⟩⟩ := closes
    rw [manager, notifier]
    exact ⟨rfl, find_released apart⟩
  | cleaned tasks shrinks reader unfinished unclosed =>
    obtain close | finish := closes
    · exact absurd close (unclosed first)
    · exact absurd finish (unfinished first)

end Displacement

/-! ## Runs -/

theorem tokenInv_run {random : ρ} {trace : List (Taken ρ)} {finish : GatewayProcess ρ}
    (run : Transition.Steps (GatewayStep shuffler protobuf) { manager := { random } } trace finish) :
    ManagerInv finish.manager ∧ TokenInv trace finish :=
  gateway_history TokenInv run (tokenInv_start random) fun _ _ _ _ => tokenInv_move

/-- The steps that follow a login of the player elsewhere, up to the next login here. -/
theorem apart_run {earlier middle : List (Taken ρ)} {start finish : GatewayProcess ρ}
    {first : SessionId} {player : PlayerId} (sound : ManagerInv start.manager)
    (holds : TokenInv earlier start) (apart : Apart first player start) (named : player ≠ "")
    (run : Transition.Steps (GatewayStep shuffler protobuf) start middle finish)
    (away : ∀ between ∈ middle, .loggedIn first player ∉ between.notes) :
    Apart first player finish := by
  suffices ManagerInv finish.manager ∧ TokenInv (earlier ++ middle) finish ∧
      ((∀ between ∈ middle, .loggedIn first player ∉ between.notes) → Apart first player finish) from
    this.2.2 away
  refine run.history (fun trace gateway => ManagerInv gateway.manager ∧
      TokenInv (earlier ++ trace) gateway ∧
      ((∀ between ∈ trace, .loggedIn first player ∉ between.notes) → Apart first player gateway))
    ⟨sound, by rwa [List.append_nil], fun _ => apart⟩ ?_
  rintro trace before taken after _ ⟨sound, holds, apart⟩ step
  obtain ⟨kept, move⟩ := step.moves sound
  obtain ⟨_, rfl, _⟩ := step
  rw [← List.append_assoc]
  refine ⟨kept, tokenInv_move holds move, fun away => ?_⟩
  have before := apart fun between member => away between (List.mem_append_left _ member)
  exact apart_move holds before move named (away taken (by simp))

/-- Whatever comes in, and in whatever order.  A session that acts for a player logged in
    as the player, and has the token that the notifier has for the player; no two sessions
    have the same token.  Once a second session has logged in as the player, and until the
    first one does so again, no packet of the first one acts for the player, what it reads
    changes nothing, and when it closes, the player stays online and registered. -/
theorem displaced_never_acts (shuffler : Shuffler ρ) (protobuf : Protobuf) (random : ρ)
    (inputs : List (Event × Moment)) :
    ∃ trace finish, ({ manager := { random } } : GatewayProcess ρ).run shuffler protobuf inputs =
        .ok (trace, finish) ∧
      (∀ earlier taken later, trace = earlier ++ taken :: later →
        ∀ id player, .acted id player true ∈ taken.notes →
          taken.before.Holds id player ∧ ∃ login ∈ earlier, .loggedIn id player ∈ login.notes) ∧
      (∀ (one other : SessionId) (left right : Session) token, finish.sessions[one]? = some left →
        finish.sessions[other]? = some right → left.notifierToken = some token →
        right.notifierToken = some token → one = other) ∧
      ∀ earlier login middle taken later (first second : SessionId) player,
        trace = earlier ++ login :: (middle ++ taken :: later) →
        .loggedIn second player ∈ login.notes → player ≠ "" → first ≠ second →
        (∀ between ∈ middle, .loggedIn first player ∉ between.notes) →
          (∀ answered, .acted first player answered ∉ taken.notes) ∧
          (taken.event.reader = some first →
            (taken.before.sessions[first]?).map Session.playerId = some player →
            taken.after.manager = taken.before.manager ∧
              taken.after.notifier = taken.before.notifier) ∧
          (taken.before.agenda.head? = some (.close first) ∨
              taken.before.agenda.head? = some (.finishClose first) →
            taken.after.manager.offlineSince.lookup player =
                taken.before.manager.offlineSince.lookup player ∧
              taken.after.notifier.senders.lookup player =
                taken.before.notifier.senders.lookup player) := by
  obtain ⟨trace, finish, ran, run⟩ := gateway_runs shuffler protobuf random inputs
  refine ⟨trace, finish, ran, ?_, ?_, ?_⟩
  · rintro earlier taken later rfl id player acted
    obtain ⟨before, after, run, step, _⟩ := run.split_cons
    obtain ⟨sound, holds⟩ := tokenInv_run run
    obtain ⟨_, move⟩ := step.moves sound
    rw [step.1]
    exact acted_holds holds move acted
  · intro one other left right token foundLeft foundRight
    exact (tokenInv_run run).2.distinct one other left.face right.face token
      (face_of_session foundLeft) (face_of_session foundRight)
  · rintro earlier login middle taken later first second player rfl loggedIn named differ away
    obtain ⟨before, after, run, step, rest⟩ := run.split_cons
    obtain ⟨sound, holds⟩ := tokenInv_run run
    obtain ⟨soundAfter, move⟩ := step.moves sound
    obtain ⟨_, rfl, _⟩ := step
    obtain ⟨last, next, middleRun, step, _⟩ := rest.split_cons
    have apart := apart_run soundAfter (tokenInv_move holds move)
      (apart_of_login holds move loggedIn named differ) named middleRun away
    have soundLast : ManagerInv last.manager :=
      middleRun.invariant (fun gateway => ManagerInv gateway.manager) soundAfter
        fun _ _ _ sound step => (step.moves sound).1
    obtain ⟨_, move⟩ := step.moves soundLast
    obtain ⟨rfl, rfl, _⟩ := step
    refine ⟨?_, ?_, apart_closes apart move⟩
    · intro answered acted
      obtain ⟨face, found, own, placed, _⟩ := acted_inv move acted
      rw [apart face found own] at placed
      cases placed
    · intro reads own
      obtain ⟨session, found, own⟩ := Option.map_eq_some_iff.mp own
      exact apart_reads apart move reads (face_of_session found) own

end Doudizhu.Gateway
