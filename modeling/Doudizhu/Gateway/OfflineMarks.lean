import Doudizhu.Gateway.ExpiryOrder
import Doudizhu.Gateway.RoomPlayers

/-! # Which rooms expire

The note since when a player is offline comes from the calls: `offlineMark` is the first
mark made while the player was in the room and not taken back since.  `MarksInv` says that
the notes of the manager are these, and none of another room; `cleanup_expired` then closes
the rooms with a mark that is five minutes old, and no other.
-/

namespace Doudizhu.Gateway

open Game

variable {ρ : Type} {shuffler : Shuffler ρ}

/-! ## Marks -/

/-- The mark that the call makes: the player is said to be offline, and is in the room. -/
def RoomCall.mark (call : RoomCall ρ) (player : PlayerId) (roomId : RoomId) : Option Time :=
  match call.op with
  | .markOffline other now =>
    if other = player ∧ call.before.playerRooms.lookup player = some roomId then some now else none
  | _ => none

/-- The call says that the player is online. -/
def RoomCall.unmarks (call : RoomCall ρ) (player : PlayerId) : Bool :=
  match call.op with
  | .markOnline other => other = player
  | _ => false

def noteMark (player : PlayerId) (roomId : RoomId) (mark : Option Time) (call : RoomCall ρ) :
    Option Time :=
  if call.unmarks player then none else mark.or (call.mark player roomId)

/-- When the player was first marked offline in the room with no `mark_online` since. -/
def offlineMark (trace : List (RoomCall ρ)) (player : PlayerId) (roomId : RoomId) : Option Time :=
  trace.foldl (noteMark player roomId) none

theorem offlineMark_snoc (trace : List (RoomCall ρ)) (call : RoomCall ρ) (player : PlayerId)
    (roomId : RoomId) :
    offlineMark (trace ++ [call]) player roomId =
      noteMark player roomId (offlineMark trace player roomId) call := by
  rw [offlineMark, List.foldl_append, List.foldl_cons, List.foldl_nil, ← offlineMark]

/-- The player was marked offline at some time in the room with no `mark_online` since. -/
def MarkedAt (trace : List (RoomCall ρ)) (player : PlayerId) (roomId : RoomId) (since : Time) : Prop :=
  ∃ earlier call later, trace = earlier ++ call :: later ∧ call.mark player roomId = some since ∧
    ∀ other ∈ later, other.unmarks player = false

/-- The clock reading of a call of `mark_offline`. -/
def RoomCall.markTime (call : RoomCall ρ) : Option Time :=
  match call.op with
  | .markOffline _ now => some now
  | _ => none

section History

variable {trace : List (RoomCall ρ)} {player : PlayerId} {roomId : RoomId} {since : Time}

theorem mark_some {call : RoomCall ρ} (marked : call.mark player roomId = some since) :
    call.op = .markOffline player since ∧ call.before.playerRooms.lookup player = some roomId := by
  unfold RoomCall.mark at marked
  split at marked
  · next other now op =>
    split at marked
    · next both =>
      cases marked
      exact ⟨both.1 ▸ op, both.2⟩
    · cases marked
  · cases marked

theorem unmarks_of_mark {call : RoomCall ρ} (marked : call.mark player roomId = some since) :
    call.unmarks player = false := by
  rw [RoomCall.unmarks, (mark_some marked).1]

theorem offlineMark_markedAt (noted : offlineMark trace player roomId = some since) :
    MarkedAt trace player roomId since := by
  induction trace using List.reverseRecOn with
  | nil => cases noted
  | append_singleton trace call inductionHypothesis =>
    rw [offlineMark_snoc, noteMark] at noted
    split at noted
    · cases noted
    · next stays =>
      have quiet : call.unmarks player = false := by simpa using stays
      obtain earlier | ⟨_, marked⟩ := Option.or_eq_some_iff.mp noted
      · obtain ⟨before, first, later, rfl, marked, still⟩ := inductionHypothesis earlier
        refine ⟨before, first, later ++ [call], by simp, marked, ?_⟩
        intro other member
        obtain old | new := List.mem_append.mp member
        · exact still other old
        · exact List.mem_singleton.mp new ▸ quiet
      · exact ⟨trace, call, [], rfl, marked, by simp⟩

/-- On a clock that never goes back, the first mark is the oldest. -/
theorem MarkedAt.first (marked : MarkedAt trace player roomId since)
    (clock : (trace.filterMap RoomCall.markTime).Pairwise (· ≤ ·)) :
    ∃ first, offlineMark trace player roomId = some first ∧ first ≤ since := by
  induction trace using List.reverseRecOn with
  | nil =>
    obtain ⟨before, call, later, split, _⟩ := marked
    simp at split
  | append_singleton trace last inductionHypothesis =>
    rw [List.filterMap_append, List.pairwise_append] at clock
    obtain ⟨before, call, later, split, marked, still⟩ := marked
    rw [offlineMark_snoc, noteMark]
    obtain rfl | ⟨front, tail, rfl⟩ := List.eq_nil_or_concat' later
    · obtain ⟨rfl, same⟩ := List.append_inj' split rfl
      cases same
      rw [unmarks_of_mark marked, marked]
      -- an earlier mark that still stands was made at an earlier time
      cases noted : offlineMark trace player roomId with
      | none => exact ⟨since, rfl, le_rfl⟩
      | some first =>
        obtain ⟨_, mark, _, split, is, _⟩ := offlineMark_markedAt noted
        have early : first ∈ trace.filterMap RoomCall.markTime :=
          List.mem_filterMap.mpr ⟨mark, by simp [split], by simp [RoomCall.markTime, (mark_some is).1]⟩
        have late : since ∈ [last].filterMap RoomCall.markTime := by
          simp [RoomCall.markTime, (mark_some marked).1]
        exact ⟨first, rfl, clock.2.2 first early since late⟩
    · rw [← List.cons_append, ← List.append_assoc] at split
      obtain ⟨rfl, same⟩ := List.append_inj' split rfl
      cases same
      have still' : ∀ other ∈ front, other.unmarks player = false := fun other member =>
        still other (List.mem_append_left _ member)
      obtain ⟨first, noted, early⟩ :=
        inductionHypothesis ⟨before, call, front, rfl, marked, still'⟩ clock.1
      refine ⟨first, ?_, early⟩
      rw [still last (by simp), noted]
      rfl

end History

/-! ## Rooms that persist -/

/-- Rooms keep their players while they last, and new ones have new ids. -/
structure Persists (before after : RoomManager ρ) : Prop where
  ids : before.nextRoomId ≤ after.nextRoomId
  rooms : ∀ roomId room, after.rooms.lookup roomId = some room → before.nextRoomId ≤ roomId ∨
    ∃ old, before.rooms.lookup roomId = some old ∧ old.playerIds ⊆ room.playerIds

theorem Persists.refl (manager : RoomManager ρ) : Persists manager manager :=
  ⟨le_rfl, fun _ room found => .inr ⟨room, found, List.Subset.refl _⟩⟩

theorem Persists.trans {first second third : RoomManager ρ} (left : Persists first second)
    (right : Persists second third) : Persists first third where
  ids := left.ids.trans right.ids
  rooms roomId room found := by
    obtain new | ⟨middle, found, inside⟩ := right.rooms roomId room found
    · exact .inl (left.ids.trans new)
    · obtain new | ⟨old, found, earlier⟩ := left.rooms roomId middle found
      · exact .inl new
      · exact .inr ⟨old, found, List.Subset.trans earlier inside⟩

/-- A change that only takes rooms away. -/
theorem persists_of_fewer {before after : RoomManager ρ} (ids : after.nextRoomId = before.nextRoomId)
    (fewer : ∀ roomId room, after.rooms.lookup roomId = some room →
      before.rooms.lookup roomId = some room) : Persists before after where
  ids := ids.ge
  rooms roomId room found := .inr ⟨room, fewer roomId room found, List.Subset.refl _⟩

theorem persists_erase {before after : RoomManager ρ} (roomId : RoomId)
    (ids : after.nextRoomId = before.nextRoomId) (rooms : after.rooms = before.rooms.erase roomId) :
    Persists before after := by
  refine persists_of_fewer ids fun other otherRoom found => ?_
  rw [rooms, UnorderedMap.find_erase] at found
  split at found
  · cases found
  · exact found

theorem persists_move {before after : RoomManager ρ} {event : RoomEvent}
    (move : RoomMove shuffler before event after) : Persists before after := by
  cases move with
  | joined waits place absent players sound begun rooms index offline fresh grows waiting =>
    refine ⟨grows, fun other otherRoom found => ?_⟩
    rw [rooms, UnorderedMap.find_insert] at found
    split at found
    · next same =>
      cases found
      subst same
      obtain present | ⟨_, new⟩ := place
      · exact .inr ⟨_, present, by rw [players]; exact List.subset_append_left _ _⟩
      · exact .inl new
    · exact .inr ⟨otherRoom, found, List.Subset.refl _⟩
  | moved present started done unsettled sameId players next =>
    refine ⟨le_rfl, fun other otherRoom found => ?_⟩
    simp only [RoomManager.putRoom, UnorderedMap.find_insert] at found
    split at found
    · next same =>
      cases found
      subst same
      exact .inr ⟨_, present, players ▸ List.Subset.refl _⟩
    · exact .inr ⟨otherRoom, found, List.Subset.refl _⟩
  | settled => exact persists_erase _ rfl rfl
  | idle | expired =>
    rw [stopWaiting_eq]
    exact persists_erase _ rfl rfl
  | online => exact persists_of_fewer rfl fun _ _ found => found
  | offline =>
    unfold RoomManager.markOffline
    split
    · exact persists_of_fewer rfl fun _ _ found => found
    · exact .refl _

theorem persists_moves {before after : RoomManager ρ} {events : List RoomEvent}
    (moves : RoomMoves shuffler before events after) : Persists before after := by
  induction moves with
  | refl => exact .refl _
  | snoc _ move inductionHypothesis => exact inductionHypothesis.trans (persists_move move)

/-! ## The notes of the manager -/

/-- Who is in a room kept the place and the note, or has just come, without a note. -/
def Carries (before after : RoomManager ρ) : Prop :=
  ∀ player, after.playerRooms.lookup player = none ∨
    (after.playerRooms.lookup player = before.playerRooms.lookup player ∧
      after.offlineSince.lookup player = before.offlineSince.lookup player) ∨
    (before.playerRooms.lookup player = none ∧ after.offlineSince.lookup player = none)

theorem Shrinks.carries {before after : RoomManager ρ} (shrinks : Shrinks before after) :
    Carries before after :=
  fun player => (shrinks player).imp id .inl

structure MarksInv (trace : List (RoomCall ρ)) (manager : RoomManager ρ) : Prop where
  sound : ManagerInv manager
  /-- A mark outlives the stay in the room only if the room is gone for good. -/
  stays : ∀ player roomId since, offlineMark trace player roomId = some since →
    manager.playerRooms.lookup player = some roomId ∨
      (manager.rooms.lookup roomId = none ∧ roomId < manager.nextRoomId)
  marks : ∀ player roomId, manager.playerRooms.lookup player = some roomId →
    manager.offlineSince.lookup player = offlineMark trace player roomId

section Steps

variable {trace : List (RoomCall ρ)} {before after : RoomManager ρ} {call : RoomCall ρ}

/-- What was marked in a room is still in it, or the room is gone. -/
theorem MarksInv.still (holds : MarksInv trace before) (sound : ManagerInv after)
    (persists : Persists before after) {player : PlayerId} {roomId : RoomId} {since : Time}
    (noted : offlineMark trace player roomId = some since) :
    after.playerRooms.lookup player = some roomId ∨
      (after.rooms.lookup roomId = none ∧ roomId < after.nextRoomId) := by
  have below : roomId < before.nextRoomId := by
    obtain indexed | ⟨_, below⟩ := holds.stays player roomId since noted
    · obtain ⟨room, found, _⟩ := holds.sound.found indexed
      exact holds.sound.fresh roomId room found
    · exact below
  cases found : after.rooms.lookup roomId with
  | none => exact .inr ⟨rfl, below.trans_le persists.ids⟩
  | some room =>
    obtain new | ⟨old, oldFound, inside⟩ := persists.rooms roomId room found
    · exact absurd below (not_lt.mpr new)
    · obtain indexed | ⟨gone, _⟩ := holds.stays player roomId since noted
      · obtain ⟨other, otherFound, member⟩ := holds.sound.found indexed
        rw [oldFound] at otherFound
        cases otherFound
        exact .inl ((sound.index player roomId).mpr ⟨room, found, inside member⟩)
      · rw [oldFound] at gone
        cases gone

/-- Calls other than the two that mark. -/
theorem MarksInv.carry (holds : MarksInv trace before) (sound : ManagerInv after)
    (persists : Persists before after) (carries : Carries before after)
    (quiet : ∀ player roomId mark, noteMark player roomId mark call = mark) :
    MarksInv (trace ++ [call]) after where
  sound := sound
  stays player roomId since noted := by
    rw [offlineMark_snoc, quiet] at noted
    exact holds.still sound persists noted
  marks player roomId indexed := by
    rw [offlineMark_snoc, quiet]
    obtain gone | ⟨place, note⟩ | ⟨outside, fresh⟩ := carries player
    · rw [gone] at indexed
      cases indexed
    · rw [note]
      exact holds.marks player roomId (place ▸ indexed)
    · -- a player who has just come was not marked in this room before
      rw [fresh]
      cases noted : offlineMark trace player roomId with
      | none => rfl
      | some since =>
        obtain place | ⟨gone, below⟩ := holds.stays player roomId since noted
        · rw [outside] at place
          cases place
        · obtain ⟨room, found, _⟩ := sound.found indexed
          obtain new | ⟨old, oldFound, _⟩ := persists.rooms roomId room found
          · exact absurd below (not_lt.mpr new)
          · rw [gone] at oldFound
            cases oldFound

theorem MarksInv.markOnline (holds : MarksInv trace before) (player : PlayerId) (answer : RoomAnswer) :
    MarksInv (trace ++ [⟨.markOnline player, before, answer⟩]) (before.markOnline player) where
  sound := holds.sound.markOnline player
  stays other roomId since noted := by
    rw [offlineMark_snoc, noteMark] at noted
    split at noted
    · cases noted
    · exact holds.stays other roomId since (by simpa [RoomCall.mark] using noted)
  marks other roomId indexed := by
    rw [offlineMark_snoc, RoomManager.markOnline, UnorderedMap.find_erase, noteMark,
      holds.marks other roomId indexed]
    by_cases same : other = player
    · simp [RoomCall.unmarks, same]
    · simp [RoomCall.unmarks, RoomCall.mark, same, Ne.symm same]

theorem markOffline_frame (manager : RoomManager ρ) (player : PlayerId) (now : Time) :
    (manager.markOffline player now).rooms = manager.rooms ∧
      (manager.markOffline player now).playerRooms = manager.playerRooms ∧
      (manager.markOffline player now).nextRoomId = manager.nextRoomId := by
  unfold RoomManager.markOffline
  split <;> exact ⟨rfl, rfl, rfl⟩

theorem MarksInv.markOffline (holds : MarksInv trace before) (player : PlayerId) (now : Time)
    (answer : RoomAnswer) :
    MarksInv (trace ++ [⟨.markOffline player now, before, answer⟩]) (before.markOffline player now) where
  sound := holds.sound.markOffline player now
  stays other roomId since noted := by
    obtain ⟨rooms, places, ids⟩ := markOffline_frame before player now
    rw [rooms, places, ids]
    rw [offlineMark_snoc, noteMark, if_neg (by simp [RoomCall.unmarks])] at noted
    obtain earlier | ⟨_, marked⟩ := Option.or_eq_some_iff.mp noted
    · exact holds.stays other roomId since earlier
    · exact .inl (mark_some marked).2
  marks other roomId indexed := by
    rw [(markOffline_frame before player now).2.1] at indexed
    rw [offlineMark_snoc, noteMark, if_neg (by simp [RoomCall.unmarks]),
      ← holds.marks other roomId indexed]
    unfold RoomManager.markOffline
    by_cases same : other = player
    · subst same
      rw [if_pos (Finmap.mem_of_lookup_eq_some indexed)]
      -- the first mark stays
      cases noted : before.offlineSince.lookup other with
      | none => simp [RoomCall.mark, indexed, noted, UnorderedMap.find_emplace]
      | some since => simp [noted, UnorderedMap.find_emplace]
    · have apart : player ≠ other := Ne.symm same
      split <;> simp [RoomCall.mark, UnorderedMap.find_emplace, same, apart]

theorem matchPlayer_carries {order : VisitOrder RoomId} {now : Time} {player : PlayerId}
    {result : MatchResult} (holds : ManagerInv before)
    (done : before.matchPlayer shuffler order now player = .ok (result, after)) :
    Carries before after := by
  obtain ⟨_, _, same, _, notes, others⟩ := matchPlayer_players shuffler holds player order now
  rw [done] at same
  cases same
  intro other
  by_cases same : other = player
  · subst same
    obtain ⟨roomId, room, found, _⟩ | ⟨_, absent⟩ := findPlayer_spec holds order other
    · simp only [RoomManager.matchPlayer, found] at done
      cases done
      exact .inr (.inl ⟨rfl, rfl⟩)
    · exact .inr (.inr ⟨absent, by rw [notes, holds.offline_absent absent]⟩)
  · exact .inr (.inl ⟨others other same, by rw [notes]⟩)

theorem marksInv_step (holds : MarksInv trace before) (step : RoomStep shuffler before call after) :
    MarksInv (trace ++ [call]) after := by
  have sound := managerInv_step holds.sound step
  obtain ⟨events, comes⟩ := step.comes holds.sound
  have persists := persists_moves comes.moves
  obtain ⟨op, manager, answer⟩ := call
  obtain ⟨rfl, done⟩ := step
  cases op with
  | matchPlayer order now player =>
    obtain ⟨⟨result, next⟩, done, same⟩ := ExceptLoop.bind_ok.mp done
    cases same
    exact holds.carry sound persists (matchPlayer_carries holds.sound done)
      fun _ _ _ => by simp [noteMark, RoomCall.unmarks, RoomCall.mark]
  | callLandlord startedAt now player called =>
    obtain ⟨⟨result, next⟩, done, same⟩ := ExceptLoop.bind_ok.mp done
    cases same
    obtain ⟨_, _, same, _, shrinks, _⟩ :=
      callLandlord_players shuffler holds.sound player startedAt now called
    rw [done] at same
    cases same
    exact holds.carry sound persists shrinks.carries
      fun _ _ _ => by simp [noteMark, RoomCall.unmarks, RoomCall.mark]
  | playCards now endedAt player cards =>
    obtain ⟨⟨result, next⟩, done, same⟩ := ExceptLoop.bind_ok.mp done
    cases same
    obtain ⟨_, _, same, _, shrinks, _⟩ :=
      playCards_players shuffler holds.sound player now endedAt cards
    rw [done] at same
    cases same
    exact holds.carry sound persists shrinks.carries
      fun _ _ _ => by simp [noteMark, RoomCall.unmarks, RoomCall.mark]
  | pass now player =>
    obtain ⟨⟨result, next⟩, done, same⟩ := ExceptLoop.bind_ok.mp done
    cases same
    obtain ⟨_, _, same, _, shrinks, _⟩ := pass_players shuffler holds.sound player now
    rw [done] at same
    cases same
    exact holds.carry sound persists shrinks.carries
      fun _ _ _ => by simp [noteMark, RoomCall.unmarks, RoomCall.mark]
  | reconnectInfo player | roomState now player =>
    obtain ⟨result, _, same⟩ := ExceptLoop.bind_ok.mp done
    cases same
    exact holds.carry sound persists (Shrinks.refl _).carries
      fun _ _ _ => by simp [noteMark, RoomCall.unmarks, RoomCall.mark]
  | markOnline player =>
    cases done
    exact holds.markOnline player _
  | markOffline player now =>
    cases done
    exact holds.markOffline player now _
  | timeoutExpired order now startedAt =>
    obtain ⟨⟨actions, next⟩, done, same⟩ := ExceptLoop.bind_ok.mp done
    cases same
    obtain ⟨_, _, same, _, shrinks⟩ :=
      timeoutExpired_players shuffler holds.sound order now startedAt
    rw [done] at same
    cases same
    exact holds.carry sound persists shrinks.carries
      fun _ _ _ => by simp [noteMark, RoomCall.unmarks, RoomCall.mark]
  | cleanupIdle order now =>
    cases done
    exact holds.carry sound persists (cleanupIdle_players shuffler holds.sound order now).2.carries
      fun _ _ _ => by simp [noteMark, RoomCall.unmarks, RoomCall.mark]
  | cleanupExpired order now =>
    dsimp only [RoomOp.exec] at done
    cases done
    exact holds.carry sound persists (cleanupExpired_players shuffler holds.sound order now).2.carries
      fun _ _ _ => by simp [noteMark, RoomCall.unmarks, RoomCall.mark]

theorem marksInv_run {random : ρ} {finish : RoomManager ρ}
    (run : Transition.Steps (RoomStep shuffler) { random } trace finish) : MarksInv trace finish :=
  run.history MarksInv ⟨managerInv_empty random, by simp [offlineMark], by simp⟩
    fun _ _ _ _ _ holds step => marksInv_step holds step

end Steps

/-! ## Expiry -/

/-- What holds of `cleanup_expired` after it has visited the players: their rooms are gone,
    and nothing else has changed. -/
structure ExpiryLoop (manager : RoomManager ρ) (visited : List PlayerId) (current : RoomManager ρ) :
    Prop where
  sound : ManagerInv current
  gone : ∀ player ∈ visited, ∀ roomId, manager.playerRooms.lookup player = some roomId →
    current.rooms.lookup roomId = none
  kept : ∀ roomId, (∀ player ∈ visited, manager.playerRooms.lookup player ≠ some roomId) →
    current.rooms.lookup roomId = manager.rooms.lookup roomId
  fewer : ∀ roomId room, current.rooms.lookup roomId = some room →
    manager.rooms.lookup roomId = some room
  notes : ∀ player roomId, current.playerRooms.lookup player = some roomId →
    current.offlineSince.lookup player = manager.offlineSince.lookup player

section Expiry

variable {manager : RoomManager ρ}

theorem ExpiryLoop.visit (holds : ManagerInv manager) {visited : List PlayerId}
    {state : List (List SettlementEntry) × RoomManager ρ} (loop : ExpiryLoop manager visited state.2)
    (now : Time) (player : PlayerId) :
    ExpiryLoop manager (visited ++ [player]) (visitExpired now state player).2 := by
  have sound := visitExpired_sound loop.sound now player
  obtain ⟨absent, same⟩ | ⟨roomId, room, found, member, next⟩ :=
    visitExpired_cases loop.sound now player
  · rw [same] at sound ⊢
    refine ⟨sound, ?_, ?_, loop.fewer, loop.notes⟩
    · intro other inside roomId indexed
      obtain earlier | last := List.mem_append.mp inside
      · exact loop.gone other earlier roomId indexed
      · -- the player's room cannot be there: the player would still be in it
        obtain rfl := List.mem_singleton.mp last
        cases found : state.2.rooms.lookup roomId with
        | none => rfl
        | some room =>
          obtain ⟨old, oldFound, member⟩ := holds.found indexed
          rw [loop.fewer roomId room found] at oldFound
          cases oldFound
          rw [(loop.sound.index other roomId).mpr ⟨room, found, member⟩] at absent
          cases absent
    · exact fun roomId outside => loop.kept roomId fun other inside =>
        outside other (List.mem_append_left _ inside)
  · have own : manager.playerRooms.lookup player = some roomId :=
      (holds.index player roomId).mpr ⟨room, loop.fewer roomId room found, member⟩
    rw [next] at sound ⊢
    refine ⟨sound, ?_, ?_, ?_, ?_⟩
    · intro other inside otherId indexed
      rw [find_closeRoom]
      split
      · rfl
      · next differ =>
        obtain earlier | last := List.mem_append.mp inside
        · exact loop.gone other earlier otherId indexed
        · rw [List.mem_singleton.mp last, own] at indexed
          exact absurd (Option.some.inj indexed).symm differ
    · intro otherId outside
      rw [find_closeRoom, if_neg]
      · exact loop.kept otherId fun other inside => outside other (List.mem_append_left _ inside)
      · rintro rfl
        exact outside player (by simp) own
    · intro otherId otherRoom otherFound
      rw [find_closeRoom] at otherFound
      split at otherFound
      · cases otherFound
      · exact loop.fewer otherId otherRoom otherFound
    · intro other otherId indexed
      rw [find_closeRoom_player] at indexed
      rw [find_closeRoom_offline]
      split at indexed
      · cases indexed
      · next outside =>
        rw [if_neg outside]
        exact loop.notes other otherId indexed

theorem cleanupExpired_loop (holds : ManagerInv manager) (order : VisitOrder PlayerId) (now : Time) :
    ExpiryLoop manager ((order.visit manager.offlineSince.keys).filter (manager.expired now))
      (manager.cleanupExpired order now).2 := by
  rw [cleanupExpired_eq]
  refine ExceptLoop.foldl_spec (fun visited (state : List (List SettlementEntry) × RoomManager ρ) =>
    ExpiryLoop manager visited state.2) _ ([], manager)
    ⟨holds, by simp, fun _ _ => rfl, fun _ _ found => found, fun _ _ _ => rfl⟩ ?_
  exact fun visited player rest state split loop => loop.visit holds now player

/-- Who is visited. -/
theorem mem_visited {order : VisitOrder PlayerId} {now : Time} {player : PlayerId} :
    player ∈ (order.visit manager.offlineSince.keys).filter (manager.expired now) ↔
      ∃ since, manager.offlineSince.lookup player = some since ∧ now - since ≥ seconds 300 := by
  rw [List.mem_filter, order.mem_visit]
  unfold RoomManager.expired
  cases noted : manager.offlineSince.lookup player with
  | none => simp
  | some since => simpa using fun _ => UnorderedMap.mem_keys_of_find noted

end Expiry

/-- A room expires because of a player who is still in it: the first mark that stands is five
    minutes old. -/
def Expires (trace : List (RoomCall ρ)) (now : Time) (roomId : RoomId) (room : Room) : Prop :=
  ∃ player ∈ room.playerIds, ∃ since, offlineMark trace player roomId = some since ∧
    now - since ≥ seconds 300

/-- What `cleanup_expired` at `now` does to a manager that the calls of `trace` led to. -/
structure CleansUp (trace : List (RoomCall ρ)) (now : Time) (before after : RoomManager ρ) : Prop where
  removed : ∀ roomId room, before.rooms.lookup roomId = some room →
    (after.rooms.lookup roomId = none ↔ Expires trace now roomId room)
  players : ∀ roomId room, before.rooms.lookup roomId = some room →
    after.rooms.lookup roomId = none → ∀ player ∈ room.playerIds,
      after.playerRooms.lookup player = none ∧ after.offlineSince.lookup player = none
  waiting : after.waitingRoomId =
    before.waitingRoomId.filter fun roomId => (after.rooms.lookup roomId).isSome
  survivors : ∀ roomId room, after.rooms.lookup roomId = some room →
    before.rooms.lookup roomId = some room ∧ ∀ player ∈ room.playerIds,
      after.playerRooms.lookup player = before.playerRooms.lookup player ∧
      after.offlineSince.lookup player = before.offlineSince.lookup player
  recent : ∀ player since, after.offlineSince.lookup player = some since → now - since < seconds 300

theorem MarksInv.cleansUp {trace : List (RoomCall ρ)} {manager : RoomManager ρ}
    (holds : MarksInv trace manager) (order : VisitOrder PlayerId) (now : Time) :
    CleansUp trace now manager (manager.cleanupExpired order now).2 := by
  have loop := cleanupExpired_loop holds.sound order now
  generalize (manager.cleanupExpired order now).2 = next at loop
  have notes : ∀ {player roomId}, manager.playerRooms.lookup player = some roomId →
      manager.offlineSince.lookup player = offlineMark trace player roomId :=
    fun indexed => holds.marks _ _ indexed
  constructor
  case removed =>
    intro roomId room found
    constructor
    · intro gone
      by_contra fresh
      rw [loop.kept roomId, found] at gone
      · cases gone
      · intro player visited indexed
        obtain ⟨since, noted, old⟩ := mem_visited.mp visited
        obtain ⟨other, sameId, member⟩ := holds.sound.found indexed
        rw [found] at sameId
        cases sameId
        exact fresh ⟨player, member, since, (notes indexed) ▸ noted, old⟩
    · rintro ⟨player, member, since, noted, old⟩
      have indexed := (holds.sound.index player roomId).mpr ⟨room, found, member⟩
      refine loop.gone player (mem_visited.mpr ⟨since, ?_, old⟩) roomId indexed
      rw [notes indexed, noted]
  case players =>
    intro roomId room found gone player member
    have outside : next.playerRooms.lookup player = none := by
      cases indexed : next.playerRooms.lookup player with
      | none => rfl
      | some other =>
        obtain ⟨otherRoom, otherFound, inside⟩ := loop.sound.found indexed
        have same := holds.sound.unique found member (loop.fewer _ _ otherFound) inside
        rw [same, otherFound] at gone
        cases gone
    exact ⟨outside, loop.sound.offline_absent outside⟩
  case waiting =>
    ext roomId
    rw [Option.filter_eq_some_iff, loop.sound.waiting, holds.sound.waiting]
    constructor
    · rintro ⟨room, found, idle⟩
      exact ⟨⟨room, loop.fewer _ _ found, idle⟩, by simp [found]⟩
    · rintro ⟨⟨room, found, idle⟩, stays⟩
      obtain ⟨left, leftFound⟩ := Option.isSome_iff_exists.mp stays
      have same := loop.fewer _ _ leftFound
      rw [found] at same
      cases same
      exact ⟨room, leftFound, idle⟩
  case survivors =>
    intro roomId room found
    refine ⟨loop.fewer _ _ found, fun player member => ?_⟩
    have indexed := (loop.sound.index player roomId).mpr ⟨room, found, member⟩
    have before := (holds.sound.index player roomId).mpr ⟨room, loop.fewer _ _ found, member⟩
    exact ⟨indexed.trans before.symm, loop.notes player roomId indexed⟩
  case recent =>
    intro player since noted
    by_contra old
    obtain ⟨roomId, indexed⟩ := loop.sound.offline player since noted
    obtain ⟨room, found, member⟩ := loop.sound.found indexed
    have before := (holds.sound.index player roomId).mpr ⟨room, loop.fewer _ _ found, member⟩
    -- the player was visited, so the room is gone
    have visited : player ∈ (order.visit manager.offlineSince.keys).filter (manager.expired now) :=
      mem_visited.mpr ⟨since, (loop.notes player roomId indexed).symm.trans noted, not_lt.mp old⟩
    rw [loop.gone player visited roomId before] at found
    cases found

/-- After any calls, `cleanup_expired` removes exactly the rooms with a player who was marked
    offline in that room, five minutes ago or longer, and not marked online since: by the
    first such mark, which on a clock that never goes back is as good as any.  What it leaves
    is as it was, and has no mark of five minutes. -/
theorem expiry_exact (shuffler : Shuffler ρ) (random : ρ) (ops : List RoomOp) :
    ∃ trace finish, RoomManager.run shuffler { random } ops = .ok (trace, finish) ∧
      (∀ order now, CleansUp trace now finish (finish.cleanupExpired order now).2) ∧
      ((trace.filterMap RoomCall.markTime).Pairwise (· ≤ ·) →
        ∀ now roomId room, Expires trace now roomId room ↔
          ∃ player ∈ room.playerIds, ∃ since, MarkedAt trace player roomId since ∧
            now - since ≥ seconds 300) := by
  obtain ⟨trace, finish, ran, _⟩ := run_sound shuffler (managerInv_empty random) ops
  have holds := marksInv_run (RoomManager.run_steps ran)
  refine ⟨trace, finish, ran, holds.cleansUp, ?_⟩
  intro clock now roomId room
  constructor
  · rintro ⟨player, member, since, noted, old⟩
    exact ⟨player, member, since, offlineMark_markedAt noted, old⟩
  · rintro ⟨player, member, since, marked, old⟩
    obtain ⟨first, noted, early⟩ := marked.first clock
    exact ⟨player, member, first, noted, old.trans (sub_le_sub_left early now)⟩

end Doudizhu.Gateway
