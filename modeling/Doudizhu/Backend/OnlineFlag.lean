import Doudizhu.Backend.PresenceMoves

/-! # The online flag and the notifier

When nothing is on its way, whoever is online is registered.  The converse is so if the
calls of the backend keep the order of the sessions they are for.
-/

namespace Doudizhu.Backend

open Gateway Game

variable {ρ : Type} {shuffler : Shuffler ρ} {protobuf : Protobuf}

/-! ## Invariants -/

/-- A player who has logged in, or is about to, is online only while registered, or about to
    be registered or marked offline. -/
def OnlineInv (trace : List (PresenceTaken ρ)) (system : Presence ρ) : Prop :=
  ∀ player, HasLoggedIn trace player ∨ system.Returning player → system.isOnline player →
    system.Registered player ∨ system.Returning player ∨ system.Leaving player

/-- Without calls that overtake one another. -/
structure OrderInv (system : Presence ρ) : Prop where
  registered : ∀ player, system.Registered player → ¬ system.Leaving player
  returning : ∀ player, system.Returning player → ¬ system.Leaving player
  online : ∀ player, system.Registered player ∨ system.Returning player → system.isOnline player

theorem hasLoggedIn_snoc {trace : List (PresenceTaken ρ)} {taken : PresenceTaken ρ} {player : PlayerId} :
    HasLoggedIn (trace ++ [taken]) player ↔
      HasLoggedIn trace player ∨ ∃ id, .loggedIn id player ∈ taken.notes := by
  simp only [HasLoggedIn, List.mem_append, List.mem_singleton, or_and_right, exists_or,
    exists_eq_left]

theorem onlineInv_move {trace : List (PresenceTaken ρ)} {taken : PresenceTaken ρ}
    (holds : OnlineInv trace taken.before)
    (move : PresenceMove taken.before taken.event taken.notes taken.after) :
    OnlineInv (trace ++ [taken]) taken.after := by
  obtain ⟨before, event, moment, notes, after⟩ := taken
  intro player known online
  rw [hasLoggedIn_snoc, or_assoc] at known
  simp only at holds move known online ⊢
  cases move with
  | quiet registered same leaving returning quiet =>
    rw [registered, leaving, returning]
    rw [same] at online
    rw [returning] at known
    have unnoted : ¬ ∃ id, .loggedIn id player ∈ notes := fun ⟨id, noted⟩ => quiet id player noted
    exact holds player (known.imp_right fun late => late.resolve_left unnoted) online
  | @accepted own _ accepts registered flags leaving returning =>
    rw [registered, leaving, returning]
    rw [flags] at online
    rw [returning] at known
    -- the player whose login was accepted is on the way back
    by_cases same : player = own
    · exact .inr (.inl (.inl same))
    · have known : HasLoggedIn trace player ∨ before.Returning player := by simpa [same] using known
      exact (holds player known (online.resolve_left same)).imp_right (Or.imp_left .inr)
  | @left own _ leaving registered flags fewer others returning =>
    rw [registered, returning]
    rw [flags] at online
    rw [returning] at known
    have known : HasLoggedIn trace player ∨ before.Returning player := by simpa using known
    -- whoever is still online is not the one who was marked offline
    obtain there | back | leaves := holds player known online.2
    · exact .inl there
    · exact .inr (.inl back)
    · exact .inr (.inr (others player online.1 leaves))
  | @loggedIn id own _ back registered same leaving fewer others =>
    rw [registered, leaving]
    rw [same] at online
    -- the login has arrived: the player is registered
    by_cases own : player = own
    · exact .inl (.inl own)
    · have known : HasLoggedIn trace player ∨ before.Returning player := by
        simp only [List.mem_singleton, Note.loggedIn.injEq, own, and_false, exists_false,
          false_or] at known
        exact known.imp_right (fewer player)
      obtain there | back | leaves := holds player known online
      · exact .inl (.inr there)
      · exact .inr (.inl (others player own back))
      · exact .inr (.inr leaves)
  | @finished own _ _ finishes registered same leaving returning quiet =>
    rw [registered, leaving, returning]
    rw [same] at online
    rw [returning] at known
    have unnoted : ¬ ∃ id, .loggedIn id player ∈ notes := fun ⟨id, noted⟩ => quiet id player noted
    have known := known.imp_right fun late => late.resolve_left unnoted
    by_cases own : player = own
    · exact .inr (.inr (.inl own))
    · obtain there | back | leaves := holds player known online
      · exact .inl ⟨own, there⟩
      · exact .inr (.inl back)
      · exact .inr (.inr (.inr leaves))

theorem orderInv_move {taken : PresenceTaken ρ} (holds : OrderInv taken.before)
    (move : PresenceMove taken.before taken.event taken.notes taken.after)
    (order : taken.InOrder) : OrderInv taken.after := by
  obtain ⟨before, event, moment, notes, after⟩ := taken
  simp only at holds move ⊢
  cases move with
  | quiet registered same leaving returning =>
    constructor
    · intro player
      rw [registered, leaving]
      exact holds.registered player
    · intro player
      rw [returning, leaving]
      exact holds.returning player
    · intro player
      rw [registered, returning, same]
      exact holds.online player
  | @accepted own _ accepts registered flags leaving returning =>
    constructor
    · intro player
      rw [registered, leaving]
      exact holds.registered player
    · intro player
      rw [returning, leaving]
      intro back
      obtain rfl | back := back
      -- the condition on the backend
      · exact order.accepts player accepts
      · exact holds.returning player back
    · intro player
      rw [registered, returning, flags]
      intro there
      obtain there | same | back := there
      · exact .inr (holds.online player (.inl there))
      · exact .inl same
      · exact .inr (holds.online player (.inr back))
  | @left own _ leaving registered flags fewer others returning =>
    constructor
    · intro player
      rw [registered]
      intro there leaves
      exact holds.registered player there (fewer player leaves)
    · intro player
      rw [returning]
      intro back leaves
      exact holds.returning player back (fewer player leaves)
    · intro player
      rw [registered, returning, flags]
      intro there
      refine ⟨?_, holds.online player there⟩
      -- whoever has still to be marked offline is neither registered nor about to be
      rintro rfl
      obtain there | back := there
      · exact holds.registered player there leaving
      · exact holds.returning player back leaving
  | @loggedIn id own _ back registered same leaving fewer others =>
    constructor
    · intro player
      rw [registered, leaving]
      intro there
      obtain rfl | there := there
      · exact holds.returning player back
      · exact holds.registered player there
    · intro player
      rw [leaving]
      intro later
      exact holds.returning player (fewer player later)
    · intro player
      rw [registered, same]
      intro there
      obtain (rfl | there) | later := there
      · exact holds.online player (.inr back)
      · exact holds.online player (.inl there)
      · exact holds.online player (.inr (fewer player later))
  | @finished own _ _ finishes registered same leaving returning =>
    constructor
    · intro player
      rw [registered, leaving]
      intro there leaves
      obtain own | leaves := leaves
      · exact there.1 own
      · exact holds.registered player there.2 leaves
    · intro player
      rw [returning, leaving]
      intro back leaves
      obtain rfl | leaves := leaves
      -- the condition on the session that closes
      · exact order.closes player finishes back
      · exact holds.returning player back leaves
    · intro player
      rw [registered, returning, same]
      intro there
      exact holds.online player (there.imp_left And.right)

/-! ## Runs -/

def PresenceStep (shuffler : Shuffler ρ) (protobuf : Protobuf) (before : Presence ρ)
    (taken : PresenceTaken ρ) (after : Presence ρ) : Prop :=
  taken.before = before ∧ taken.after = after ∧
    before.step shuffler protobuf taken.event taken.moment = .ok (taken.notes, after)

theorem Presence.worksOff (shuffler : Shuffler ρ) (protobuf : Protobuf) :
    Transition.WorksOff (PresenceStep shuffler protobuf)
      (fun system input => system.step shuffler protobuf input.1 input.2)
      (fun system input notes next => ⟨system, input.1, input.2, notes, next⟩)
      (Presence.run shuffler protobuf) where
  nil _ := rfl
  cons _ _ _ := rfl
  move done := ⟨rfl, rfl, done⟩

theorem Presence.run_steps {system finish : Presence ρ} {inputs : List (PresenceEvent × Moment)}
    {trace : List (PresenceTaken ρ)} (ran : system.run shuffler protobuf inputs = .ok (trace, finish)) :
    Transition.Steps (PresenceStep shuffler protobuf) system trace finish :=
  (Presence.worksOff shuffler protobuf).steps ran

theorem Presence.run_goes (shuffler : Shuffler ρ) (protobuf : Protobuf) {system : Presence ρ}
    (sound : system.Sound) (inputs : List (PresenceEvent × Moment)) :
    ∃ trace finish, system.run shuffler protobuf inputs = .ok (trace, finish) := by
  have runs := (Presence.worksOff shuffler protobuf).goes
    (fun _ system => system.Sound) ?_ sound inputs
  · obtain ⟨trace, finish, ran, _⟩ := runs
    exact ⟨trace, finish, ran⟩
  · intro _ before ⟨event, moment⟩ sound
    obtain ⟨notes, next, done, sound, _⟩ := presence_moves shuffler protobuf sound event moment
    exact ⟨notes, next, done, sound⟩

theorem sound_start (random : ρ) (server : BackendServer) :
    ({ gateway := { manager := { random } }, server } : Presence ρ).Sound where
  manager := managerInv_empty random
  tokens := ⟨[], tokenInv_start random⟩
  closing := closingInv_start random
  answered := nofun

theorem notReturning_start (random : ρ) (server : BackendServer) (player : PlayerId) :
    ¬ ({ gateway := { manager := { random } }, server } : Presence ρ).Returning player := by
  simp [Presence.Returning, Presence.slot]

theorem presence_history {random : ρ} {server : BackendServer} {trace : List (PresenceTaken ρ)}
    {finish : Presence ρ}
    (run : Transition.Steps (PresenceStep shuffler protobuf)
      { gateway := { manager := { random } }, server } trace finish) :
    OnlineInv trace finish ∧ ((∀ taken ∈ trace, taken.InOrder) → OrderInv finish) := by
  suffices finish.Sound ∧ OnlineInv trace finish ∧
      ((∀ taken ∈ trace, taken.InOrder) → OrderInv finish) from this.2
  refine run.history (fun trace system => system.Sound ∧ OnlineInv trace system ∧
    ((∀ taken ∈ trace, taken.InOrder) → OrderInv system)) ⟨sound_start random server, ?_, ?_⟩ ?_
  · intro player known
    obtain ⟨_, member, _⟩ | returning := known
    · cases member
    · exact absurd returning (notReturning_start random server player)
  · intro _
    constructor
    · simp [Presence.Registered]
    · intro player returning
      exact absurd returning (notReturning_start random server player)
    · intro player there
      obtain registered | returning := there
      · simp [Presence.Registered] at registered
      · exact absurd returning (notReturning_start random server player)
  · intro trace before taken after _ holds step
    obtain ⟨sound, online, order⟩ := holds
    obtain ⟨rfl, rfl, done⟩ := step
    obtain ⟨notes, next, again, sound, move⟩ :=
      presence_moves shuffler protobuf sound taken.event taken.moment
    rw [done] at again
    cases again
    refine ⟨sound, onlineInv_move online move, ?_⟩
    simp only [List.forall_mem_append, List.forall_mem_singleton]
    intro ordered
    exact orderInv_move (order ordered.1) move ordered.2

/-- Whatever the sessions, the threads and the backend do, and in whatever order: when no job
    and no login is left, a player who has logged in is online only if the notifier has an
    entry, and if besides every step kept the order, exactly then. -/
theorem online_agrees (shuffler : Shuffler ρ) (protobuf : Protobuf) (random : ρ)
    (server : BackendServer) (inputs : List (PresenceEvent × Moment)) :
    ∃ trace finish, ({ gateway := { manager := { random } }, server } : Presence ρ).run shuffler
        protobuf inputs = .ok (trace, finish) ∧
      (finish.gateway.jobs = [] → finish.gateway.completions = [] →
        ∀ player, HasLoggedIn trace player →
          (finish.isOnline player → finish.Registered player) ∧
          ((∀ taken ∈ trace, taken.InOrder) →
            (finish.isOnline player ↔ finish.Registered player))) := by
  obtain ⟨trace, finish, ran⟩ :=
    Presence.run_goes shuffler protobuf (sound_start random server) inputs
  refine ⟨trace, finish, ran, ?_⟩
  intro jobs completions player loggedIn
  obtain ⟨online, order⟩ := presence_history (Presence.run_steps ran)
  have noSlot : ∀ index, finish.slot index = none := by
    intro index
    rw [Presence.slot, jobs]
    rfl
  have notLeaving : ¬ finish.Leaving player := by simp [Presence.Leaving, noSlot]
  have notReturning : ¬ finish.Returning player := by simp [Presence.Returning, noSlot, completions]
  have there : finish.isOnline player → finish.Registered player := by
    intro isOnline
    obtain there | back | leaves := online player (.inl loggedIn) isOnline
    · exact there
    · exact absurd back notReturning
    · exact absurd leaves notLeaving
  exact ⟨there, fun kept => ⟨there, fun registered => (order kept).online player (.inl registered)⟩⟩

/-! ## A call that comes too late -/

def Presence.inputs (events : List PresenceEvent) : List (PresenceEvent × Moment) :=
  events.map fun event => (event, .still)

/-- The first job is run, up to its end. -/
def firstJobRuns : List PresenceEvent :=
  [.handled 0, .gateway (.jobDone 0 { success := false, playerId := "", coins := 0, message := "" })]

/-- A player logs in again on another session, and the old one expires before the second
    login has come back. -/
def reconnectsEarly : List (PresenceEvent × Moment) :=
  Presence.inputs
    ((Event.accepted .tcp :: loginArrives 0 "ann").map .gateway ++ firstJobRuns ++
      [.gateway (.loginCompleted 0), .gateway .next] ++
      (Event.accepted .tcp :: loginArrives 1 "ann").map .gateway ++ firstJobRuns ++
      [.gateway (.heartbeatExpired 0), .gateway .next, .gateway .next] ++ firstJobRuns ++
      [.gateway (.loginCompleted 0), .gateway .next])

/-- Nothing is on its way, and a player with an entry is offline. -/
def Presence.forgets (system : Presence ρ) (player : PlayerId) : Bool :=
  system.gateway.jobs.isEmpty && system.gateway.completions.isEmpty && system.gateway.agenda.isEmpty &&
    (system.gateway.notifier.senders.lookup player).isSome && !system.isOnline player

/-- The player has a session, and is marked offline for good. -/
theorem online_flag_lost : ∃ trace finish,
    ({ gateway := { manager := { random := () } } } : Presence Unit).run .identity WireFormat.generated
      reconnectsEarly = .ok (trace, finish) ∧
    finish.gateway.agenda = [] ∧ finish.gateway.jobs = [] ∧ finish.gateway.completions = [] ∧
    HasLoggedIn trace "ann" ∧ ¬ (finish.isOnline "ann" ↔ finish.Registered "ann") := by
  obtain ⟨⟨trace, finish⟩, ran, passes⟩ := ExceptLoop.exists_of_test
    (show ExceptLoop.test (fun (trace, finish) => finish.forgets "ann" &&
        trace.any fun taken => decide (.loggedIn 0 "ann" ∈ taken.notes))
      (({ gateway := { manager := { random := () } } } : Presence Unit).run .identity
        WireFormat.generated reconnectsEarly) = true by
    decide +kernel)
  simp only [Presence.forgets, Bool.and_eq_true, List.isEmpty_iff, List.any_eq_true,
    decide_eq_true_eq, Bool.not_eq_true', Option.isSome_iff_ne_none] at passes
  obtain ⟨⟨⟨⟨⟨jobs, completions⟩, agenda⟩, registered⟩, offline⟩, taken, member, noted⟩ := passes
  refine ⟨trace, finish, ran, agenda, jobs, completions, ⟨taken, member, 0, noted⟩, ?_⟩
  intro same
  have online := same.mpr registered
  rw [offline] at online
  cases online

end Doudizhu.Backend
