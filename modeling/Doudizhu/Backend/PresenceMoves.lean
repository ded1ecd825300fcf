import Doudizhu.Backend.Presence
import Doudizhu.Gateway.Closing
import Doudizhu.Gateway.Handlers

/-! # What a step does to who is online

Each step is one of five moves: it says who is registered, who is online, who has still to
be marked offline and whose login is on its way back.
-/

namespace Doudizhu.Backend

open Gateway Game

variable {ρ : Type} {shuffler : Shuffler ρ} {protobuf : Protobuf}

/-! ## Moves -/

/-- What a step does to who is registered, who is online, and who is about to be. -/
inductive PresenceMove (before : Presence ρ) (event : PresenceEvent) :
    List Note → Presence ρ → Prop where
  | quiet {notes : List Note} {after : Presence ρ} :
      (∀ player, after.Registered player ↔ before.Registered player) →
      (∀ player, after.isOnline player = before.isOnline player) →
      (∀ player, after.Leaving player ↔ before.Leaving player) →
      (∀ player, after.Returning player ↔ before.Returning player) →
      (∀ id player, .loggedIn id player ∉ notes) →
      PresenceMove before event notes after
  | accepted {player : PlayerId} {after : Presence ρ} :
      before.accepts event = some player →
      (∀ other, after.Registered other ↔ before.Registered other) →
      (∀ other, after.isOnline other ↔ other = player ∨ before.isOnline other) →
      (∀ other, after.Leaving other ↔ before.Leaving other) →
      (∀ other, after.Returning other ↔ other = player ∨ before.Returning other) →
      PresenceMove before event [] after
  | left {player : PlayerId} {after : Presence ρ} :
      before.Leaving player →
      (∀ other, after.Registered other ↔ before.Registered other) →
      (∀ other, after.isOnline other ↔ other ≠ player ∧ before.isOnline other) →
      (∀ other, after.Leaving other → before.Leaving other) →
      (∀ other, other ≠ player → before.Leaving other → after.Leaving other) →
      (∀ other, after.Returning other ↔ before.Returning other) →
      PresenceMove before event [] after
  | loggedIn {id : SessionId} {player : PlayerId} {after : Presence ρ} :
      before.Returning player →
      (∀ other, after.Registered other ↔ other = player ∨ before.Registered other) →
      (∀ other, after.isOnline other = before.isOnline other) →
      (∀ other, after.Leaving other ↔ before.Leaving other) →
      (∀ other, after.Returning other → before.Returning other) →
      (∀ other, other ≠ player → before.Returning other → after.Returning other) →
      PresenceMove before event [.loggedIn id player] after
  | finished {player : PlayerId} {notes : List Note} {after : Presence ρ} :
      before.finishes event = some player →
      (∀ other, after.Registered other ↔ other ≠ player ∧ before.Registered other) →
      (∀ other, after.isOnline other = before.isOnline other) →
      (∀ other, after.Leaving other ↔ other = player ∨ before.Leaving other) →
      (∀ other, after.Returning other ↔ before.Returning other) →
      (∀ id player, .loggedIn id player ∉ notes) →
      PresenceMove before event notes after

/-! ### The queue -/

/-- Only running jobs have answers. -/
def Presence.Answered (system : Presence ρ) : Prop :=
  ∀ index result, system.answers index = some result →
    index < backendThreads ∧ index < system.gateway.jobs.length

theorem Presence.Answered.beyond {system : Presence ρ} (answered : system.Answered) {index : Nat}
    (beyond : system.gateway.jobs.length ≤ index) : system.answers index = none := by
  cases found : system.answers index with
  | none => rfl
  | some result => exact absurd (answered index result found).2 (not_lt.mpr beyond)

section Queue

variable {before after : Presence ρ}

theorem slot_posted {more : List Job} (answered : before.Answered)
    (jobs : after.gateway.jobs = before.gateway.jobs ++ more) (answers : after.answers = before.answers)
    (index : Nat) :
    after.slot index = if index < before.gateway.jobs.length then before.slot index
      else more[index - before.gateway.jobs.length]?.map (·, none) := by
  unfold Presence.slot
  rw [jobs, answers, List.getElem?_append]
  split
  · rfl
  · next outside => rw [answered.beyond (not_lt.mp outside)]

theorem leaving_posted {more : List Job} (answered : before.Answered)
    (jobs : after.gateway.jobs = before.gateway.jobs ++ more) (answers : after.answers = before.answers)
    (player : PlayerId) :
    after.Leaving player ↔ .markOffline player ∈ more ∨ before.Leaving player := by
  have slots := slot_posted answered jobs answers
  constructor
  · intro ⟨index, slot⟩
    rw [slots] at slot
    split at slot
    · exact .inr ⟨index, slot⟩
    · obtain ⟨job, found, same⟩ := Option.map_eq_some_iff.mp slot
      cases same
      exact .inl (List.mem_of_getElem? found)
  · intro leaving
    obtain posted | ⟨index, slot⟩ := leaving
    -- the new job comes behind those that are there
    · obtain ⟨place, found⟩ := List.mem_iff_getElem?.mp posted
      refine ⟨before.gateway.jobs.length + place, ?_⟩
      rw [slots, if_neg (by omega), Nat.add_sub_cancel_left, found]
      rfl
    · obtain ⟨job, found, _⟩ := Option.map_eq_some_iff.mp slot
      have inside := (List.getElem?_eq_some_iff.mp found).1
      exact ⟨index, by rw [slots, if_pos inside, slot]⟩

theorem returning_posted {more : List Job} (answered : before.Answered)
    (jobs : after.gateway.jobs = before.gateway.jobs ++ more) (answers : after.answers = before.answers)
    (completions : after.gateway.completions = before.gateway.completions) (player : PlayerId) :
    after.Returning player ↔ before.Returning player := by
  have slots := slot_posted answered jobs answers
  unfold Presence.Returning
  rw [completions]
  have same : ∀ index job result, after.slot index = some (job, some result) ↔
      before.slot index = some (job, some result) := by
    intro index job result
    rw [slots]
    split
    · rfl
    · next outside =>
      -- a job that has just been posted has no answer
      have beyond : before.slot index = none := by
        rw [Presence.slot, List.getElem?_eq_none (not_lt.mp outside), Option.map_none]
      simp [beyond]
  simp only [same]

/-- The backend handles the call of a job. -/
theorem slot_handled {index : Nat} {job : Job} {result : LoginResult}
    (found : before.gateway.jobs[index]? = some job) (jobs : after.gateway.jobs = before.gateway.jobs)
    (answers : after.answers = Function.update before.answers index (some result)) (other : Nat) :
    after.slot other = if other = index then some (job, some result) else before.slot other := by
  unfold Presence.slot
  rw [jobs, answers, Function.update_apply]
  split
  · next same => rw [same, found, Option.map_some]
  · rfl

theorem leaving_handled {index : Nat} {job : Job} {result : LoginResult}
    (found : before.gateway.jobs[index]? = some job) (jobs : after.gateway.jobs = before.gateway.jobs)
    (answers : after.answers = Function.update before.answers index (some result)) (player : PlayerId) :
    (after.Leaving player → before.Leaving player) ∧
      (job.leaver ≠ some player → before.Leaving player → after.Leaving player) := by
  have slots := slot_handled found jobs answers
  constructor
  · intro ⟨other, slot⟩
    rw [slots] at slot
    split at slot
    · cases slot
    · exact ⟨other, slot⟩
  · intro stays ⟨other, slot⟩
    refine ⟨other, ?_⟩
    rw [slots, if_neg, slot]
    -- the job that is handled is not the one that leaves
    rintro rfl
    rw [Presence.slot, found, Option.map_some, Option.some.injEq, Prod.mk.injEq] at slot
    exact stays (by rw [slot.1]; rfl)

theorem returning_handled {index : Nat} {job : Job} {result : LoginResult}
    (found : before.gateway.jobs[index]? = some job) (waits : before.answers index = none)
    (jobs : after.gateway.jobs = before.gateway.jobs)
    (answers : after.answers = Function.update before.answers index (some result))
    (completions : after.gateway.completions = before.gateway.completions) (player : PlayerId) :
    after.Returning player ↔
      (∃ session requested, job = .login session requested ∧ result.success ∧
        result.playerId = player) ∨ before.Returning player := by
  have slots := slot_handled found jobs answers
  constructor
  · intro ⟨other, success, own, back⟩
    rw [completions] at back
    obtain ⟨place, session, requested, slot⟩ | back := back
    · rw [slots] at slot
      split at slot
      · cases slot
        exact .inl ⟨session, requested, rfl, success, own⟩
      · exact .inr ⟨other, success, own, .inl ⟨place, session, requested, slot⟩⟩
    · exact .inr ⟨other, success, own, .inr back⟩
  · intro returning
    obtain ⟨session, requested, rfl, success, own⟩ | ⟨other, success, own, back⟩ := returning
    · exact ⟨result, success, own, .inl ⟨index, session, requested, by rw [slots, if_pos rfl]⟩⟩
    · refine ⟨other, success, own, ?_⟩
      rw [completions]
      refine back.imp_left ?_
      intro ⟨place, session, requested, slot⟩
      refine ⟨place, session, requested, ?_⟩
      rw [slots, if_neg, slot]
      -- it had no answer before
      rintro rfl
      rw [Presence.slot, found, waits] at slot
      cases slot

/-- A thread is done with a job that the backend has answered. -/
theorem slot_returned {index : Nat} (jobs : after.gateway.jobs = before.gateway.jobs.eraseIdx index)
    (answers : after.answers = without before.answers index) (other : Nat) :
    after.slot other = before.slot (if other < index then other else other + 1) := by
  simp only [Presence.slot, jobs, answers, without, List.getElem?_eraseIdx]
  split <;> rfl

/-- Every job but the one that has left has its place. -/
theorem slot_kept {index other : Nat} (jobs : after.gateway.jobs = before.gateway.jobs.eraseIdx index)
    (answers : after.answers = without before.answers index) (differ : other ≠ index) :
    ∃ place, after.slot place = before.slot other := by
  have slots := slot_returned jobs answers
  by_cases earlier : other < index
  · exact ⟨other, by rw [slots, if_pos earlier]⟩
  · refine ⟨other - 1, ?_⟩
    have later : ¬ other - 1 < index := by omega
    have back : other - 1 + 1 = other := by omega
    rw [slots, if_neg later, back]

theorem leaving_returned {index : Nat} {result : LoginResult}
    (jobs : after.gateway.jobs = before.gateway.jobs.eraseIdx index)
    (answers : after.answers = without before.answers index)
    (handled : before.answers index = some result) (player : PlayerId) :
    after.Leaving player ↔ before.Leaving player := by
  constructor
  · intro ⟨place, slot⟩
    rw [slot_returned jobs answers] at slot
    exact ⟨_, slot⟩
  · intro ⟨other, slot⟩
    have differ : other ≠ index := by
      -- the job that returns has an answer
      rintro rfl
      obtain ⟨_, _, same⟩ := Option.map_eq_some_iff.mp slot
      rw [handled] at same
      cases same
    obtain ⟨place, same⟩ := slot_kept jobs answers differ
    exact ⟨place, same.trans slot⟩

theorem returning_returned {index : Nat} {job : Job} {result : LoginResult}
    (found : before.gateway.jobs[index]? = some job)
    (jobs : after.gateway.jobs = before.gateway.jobs.eraseIdx index)
    (answers : after.answers = without before.answers index)
    (handled : before.answers index = some result)
    (completions : after.gateway.completions = before.gateway.completions ++
      (match job with
        | .login session requested => [{ session, requested, result }]
        | .markOffline _ | .settle _ => [])) (player : PlayerId) :
    after.Returning player ↔ before.Returning player := by
  have own : before.slot index = some (job, some result) := by
    rw [Presence.slot, found, handled, Option.map_some]
  unfold Presence.Returning
  rw [completions]
  constructor
  · intro ⟨other, success, name, back⟩
    refine ⟨other, success, name, ?_⟩
    obtain ⟨place, session, requested, slot⟩ | ⟨completion, member, rfl⟩ := back
    · rw [slot_returned jobs answers] at slot
      exact .inl ⟨_, session, requested, slot⟩
    · obtain old | new := List.mem_append.mp member
      · exact .inr ⟨completion, old, rfl⟩
      · cases job with
        | login session requested =>
          obtain rfl := List.mem_singleton.mp new
          exact .inl ⟨index, session, requested, own⟩
        | markOffline | settle => cases new
  · intro ⟨other, success, name, back⟩
    refine ⟨other, success, name, ?_⟩
    obtain ⟨place, session, requested, slot⟩ | ⟨completion, member, same⟩ := back
    -- the answer moves from the queue to the completions, or stays
    · by_cases here : place = index
      · subst here
        rw [own] at slot
        cases slot
        exact .inr ⟨_, List.mem_append_right _ (List.mem_singleton_self _), rfl⟩
      · obtain ⟨kept, same⟩ := slot_kept jobs answers here
        exact .inl ⟨kept, session, requested, same.trans slot⟩
    · exact .inr ⟨completion, List.mem_append_left _ member, same⟩

/-- A login has come back. -/
theorem returning_completed {index : Nat} {completion : LoginCompletion}
    (found : before.gateway.completions[index]? = some completion)
    (jobs : after.gateway.jobs = before.gateway.jobs) (answers : after.answers = before.answers)
    (completions : after.gateway.completions = before.gateway.completions.eraseIdx index)
    (player : PlayerId) :
    (after.Returning player → before.Returning player) ∧
      (¬ (completion.result.success ∧ completion.result.playerId = player) →
        before.Returning player → after.Returning player) := by
  have slots : ∀ place, after.slot place = before.slot place := by
    intro place
    rw [Presence.slot, jobs, answers, ← Presence.slot]
  unfold Presence.Returning
  simp only [slots, completions]
  constructor
  · intro ⟨result, success, own, back⟩
    refine ⟨result, success, own, back.imp_right ?_⟩
    intro ⟨other, member, same⟩
    exact ⟨other, (List.eraseIdx_sublist ..).subset member, same⟩
  · intro apart ⟨result, success, own, back⟩
    refine ⟨result, success, own, back.imp_right ?_⟩
    intro ⟨other, member, same⟩
    obtain ⟨place, present⟩ := List.mem_iff_getElem?.mp member
    refine ⟨other, List.mem_eraseIdx_iff_getElem?.mpr ⟨place, ?_, present⟩, same⟩
    -- the one that is taken out was a login of another player, or refused
    rintro rfl
    rw [found] at present
    cases present
    subst same
    exact apart ⟨success, own⟩

end Queue

/-! ### Steps -/

/-- What the steps rely on. -/
structure Presence.Sound (system : Presence ρ) : Prop where
  manager : ManagerInv system.gateway.manager
  tokens : ∃ trace, TokenInv trace system.gateway
  closing : ClosingInv system.gateway
  answered : system.Answered

/-- Only the login that has come back is noted as a login. -/
theorem login_notes {before after : GatewayProcess ρ} {event : Event} {notes : List Note}
    (move : GatewayMove before event notes after) :
    (after.notifier.nextToken = before.notifier.nextToken ∧ ∀ id player, .loggedIn id player ∉ notes) ∨
      (after.notifier.nextToken = before.notifier.nextToken + 1 ∧
        ∃ index completion, event = .loginCompleted index ∧
          before.completions[index]? = some completion ∧
          notes = [.loggedIn completion.session completion.result.playerId]) := by
  cases move with
  | stalled => exact .inl ⟨rfl, by simp⟩
  | other _ keeps => exact .inl ⟨by rw [keeps.notifier], by simp⟩
  | opened _ _ _ notifier => exact .inl ⟨by rw [notifier], by simp⟩
  | handed _ keeps => exact .inl ⟨by rw [keeps.notifier], by simp⟩
  | acted _ _ _ _ _ notifier => exact .inl ⟨by rw [notifier], by simp⟩
  | loggedIn _ event found _ _ notifier =>
    exact .inr ⟨by rw [notifier]; rfl, _, _, event, found, rfl⟩
  | closed _ _ _ _ _ _ notifier => exact .inl ⟨by rw [notifier], by simp⟩
  | closing _ _ _ _ _ _ _ notifier => exact .inl ⟨by rw [notifier], by simp⟩
  | finished _ _ _ notifier => exact .inl ⟨by rw [notifier, released_nextToken], by simp⟩
  | cleaned _ _ _ _ _ notifier => exact .inl ⟨by rw [notifier], by simp⟩

/-- A session that gives up the entry of its player. -/
theorem lookup_released {notifier : PlayerNotifier} {face : Face} (current : face.current notifier)
    (other : PlayerId) :
    (released notifier (some face)).senders.lookup other ≠ none ↔
      other ≠ face.playerId ∧ notifier.senders.lookup other ≠ none := by
  obtain ⟨_, token, told, current⟩ := current_iff.mp current
  obtain ⟨player, held, closed⟩ := face
  obtain rfl : held = some token := told
  simp only [released, PlayerNotifier.unregisterPlayer, current, if_true, UnorderedMap.find_erase]
  split <;> simp [*]

section Steps

variable {before : Presence ρ} {gateway : GatewayProcess ρ} {event : Event} {moment : Moment}
  {notes : List Note}

theorem sound_gateway (sound : before.Sound) (answers : Nat → Option LoginResult)
    (done : before.gateway.step shuffler protobuf event moment = .ok (notes, gateway))
    (answered : ∀ index result, answers index = some result →
      index < backendThreads ∧ index < gateway.jobs.length) :
    ({ before with gateway, answers } : Presence ρ).Sound ∧
      GatewayMove before.gateway event notes gateway := by
  obtain ⟨_, _, again, manager, move⟩ := step_moves shuffler protobuf sound.manager event moment
  rw [done] at again
  cases again
  obtain ⟨trace, tokens⟩ := sound.tokens
  have later : TokenInv (trace ++ [⟨before.gateway, event, moment, notes, gateway⟩]) gateway :=
    tokenInv_move tokens move
  exact ⟨⟨manager, ⟨_, later⟩, closingInv_move tokens sound.closing move, answered⟩, move⟩

/-- A call of the gateway that is none of its pool's. -/
theorem same_move (sound : before.Sound) (same : SameCalls before.gateway gateway)
    (quiet : ∀ id player, .loggedIn id player ∉ notes) (event : PresenceEvent) :
    PresenceMove before event notes { before with gateway } := by
  obtain ⟨more, jobs, stays⟩ := same.jobs
  have leaving := @leaving_posted _ before { before with gateway } more sound.answered jobs rfl
  refine .quiet ?_ (fun _ => rfl) ?_ ?_ quiet
  · intro player
    rw [Presence.Registered, same.notifier, ← Presence.Registered]
  · intro player
    rw [leaving, or_iff_right]
    intro member
    cases stays _ member
  · exact returning_posted sound.answered jobs rfl same.completions

theorem finished_move {id : SessionId} {face : Face} (sound : before.Sound)
    (head : before.gateway.agenda.head? = some (.finishClose id))
    (present : before.gateway.face id = some face)
    (notifier : gateway.notifier = released before.gateway.notifier (some face))
    (jobs : gateway.jobs = before.gateway.jobs ++ [.markOffline face.playerId])
    (completions : gateway.completions = before.gateway.completions)
    (quiet : ∀ id player, .loggedIn id player ∉ notes) :
    PresenceMove before (.gateway .next) notes { before with gateway } := by
  obtain ⟨session, found, rfl⟩ := session_of_face present
  obtain ⟨own, again, _, current⟩ := sound.closing.holds id (List.mem_of_mem_head? head)
  rw [present] at again
  cases again
  have leaving := @leaving_posted _ before { before with gateway } _ sound.answered jobs rfl
  have finishes : before.finishes (.gateway .next) = some session.playerId := by
    simp only [Presence.finishes, head, found, Option.map_some]
  refine .finished finishes ?_ (fun _ => rfl) ?_ ?_ quiet
  · intro other
    rw [Presence.Registered, notifier]
    exact lookup_released current other
  · intro other
    rw [leaving, List.mem_singleton]
    exact or_congr_left ⟨fun same => (Job.markOffline.inj same), fun same => same ▸ rfl⟩
  · exact returning_posted sound.answered jobs rfl completions

theorem completed_move {index : Nat} {completion : LoginCompletion}
    (found : before.gateway.completions[index]? = some completion)
    (notifier : gateway.notifier = (if completion.result.success then
      (before.gateway.notifier.registerPlayer completion.result.playerId completion.session).2
      else before.gateway.notifier))
    (jobs : gateway.jobs = before.gateway.jobs)
    (completions : gateway.completions = before.gateway.completions.eraseIdx index)
    (noted : if completion.result.success then
        notes = [.loggedIn completion.session completion.result.playerId]
      else ∀ id player, .loggedIn id player ∉ notes) :
    PresenceMove before (.gateway (.loginCompleted index)) notes { before with gateway } := by
  have returning := @returning_completed _ before { before with gateway } _ _ found jobs rfl completions
  have leaving : ∀ player, ({ before with gateway } : Presence ρ).Leaving player ↔
      before.Leaving player := by
    intro player
    unfold Presence.Leaving Presence.slot
    rw [jobs]
  by_cases success : completion.result.success
  · rw [if_pos success] at notifier noted
    subst noted
    refine .loggedIn ?_ ?_ (fun _ => rfl) leaving (fun other => (returning other).1) ?_
    · exact ⟨completion.result, success, rfl, .inr ⟨completion, List.mem_of_getElem? found, rfl⟩⟩
    · intro other
      rw [Presence.Registered, notifier, PlayerNotifier.find_register]
      split
      · next same => simp [same]
      · next differ => simp [Presence.Registered, differ]
    -- logins of other players are still under way
    · intro other differ
      exact (returning other).2 fun own => differ own.2.symm
  · rw [if_neg success] at notifier noted
    refine .quiet ?_ (fun _ => rfl) leaving ?_ noted
    · intro player
      rw [Presence.Registered, notifier, ← Presence.Registered]
    · intro player
      exact ⟨(returning player).1, (returning player).2 fun own => success own.1⟩

theorem returned_move {index : Nat} {job : Job} {result : LoginResult} {chosen : LoginResult}
    (found : before.gateway.jobs[index]? = some job) (handled : before.answers index = some result)
    (notifier : gateway.notifier = before.gateway.notifier)
    (jobs : gateway.jobs = before.gateway.jobs.eraseIdx index)
    (completions : gateway.completions = before.gateway.completions ++
      (match job with
        | .login session requested => [{ session, requested, result }]
        | .markOffline _ | .settle _ => []))
    (quiet : ∀ id player, .loggedIn id player ∉ notes) :
    PresenceMove before (.gateway (.jobDone index chosen)) notes
      { before with gateway, answers := without before.answers index } := by
  refine .quiet ?_ (fun _ => rfl) ?_ ?_ quiet
  · intro player
    rw [Presence.Registered, notifier, ← Presence.Registered]
  · exact leaving_returned jobs rfl handled
  · exact returning_returned found jobs rfl handled completions

/-- What the backend does for a job. -/
theorem handled_move {index : Nat} {job : Job} (running : index < backendThreads)
    (found : before.gateway.jobs[index]? = some job) (waits : before.answers index = none) :
    PresenceMove before (.handled index) []
      { before with
        server := (before.server.handle job).2
        answers := Function.update before.answers index (some (before.server.handle job).1) } := by
  have slot : before.slot index = some (job, none) := by rw [Presence.slot, found, waits]; rfl
  have leaving := @leaving_handled _ before { before with
      server := (before.server.handle job).2
      answers := Function.update before.answers index (some (before.server.handle job).1) }
    _ _ _ found rfl rfl
  have returning := @returning_handled _ before { before with
      server := (before.server.handle job).2
      answers := Function.update before.answers index (some (before.server.handle job).1) }
    _ _ _ found waits rfl rfl rfl
  cases job with
  | login session requested =>
    have stays : ∀ player, (Job.login session requested).leaver ≠ some player := nofun
    cases logged : before.server.login requested with
    | error refusal =>
      refine .quiet (fun _ => Iff.rfl) ?_
        (fun player => ⟨(leaving player).1, (leaving player).2 (stays player)⟩) ?_ (by simp)
      · intro player
        simp [Presence.isOnline, BackendServer.handle, logged]
      · intro player
        rw [returning player]
        simp [BackendServer.handle, logged]
    | ok accepted =>
      obtain ⟨response, next⟩ := accepted
      have online : next.online = before.server.online.markOnline response.playerId := by
        obtain ⟨⟨_, ledger⟩, _, same⟩ := ExceptLoop.bind_ok.mp logged
        cases same
        rfl
      -- the backend sets the key before the gateway hears of it
      have accepts : before.accepts (.handled index) = some response.playerId := by
        simp only [Presence.accepts, slot, running, if_true, BackendServer.accepts, logged]
      refine .accepted accepts (fun _ => Iff.rfl) ?_
        (fun player => ⟨(leaving player).1, (leaving player).2 (stays player)⟩) ?_
      · intro other
        simp only [Presence.isOnline, BackendServer.handle, logged, online]
        exact OnlinePlayers.isOnline_markOnline
      · intro other
        rw [returning other]
        simp [BackendServer.handle, logged, eq_comm]
  -- the key is deleted, whoever is registered by now
  | markOffline player =>
    refine .left ⟨index, slot⟩ (fun _ => Iff.rfl) ?_ (fun other => (leaving other).1) ?_ ?_
    · intro other
      exact OnlinePlayers.isOnline_markOffline
    · intro other differ
      exact (leaving other).2 fun same => differ (Option.some.inj same).symm
    · intro other
      rw [returning other]
      simp
  | settle entry =>
    have stays : ∀ player, (Job.settle entry).leaver ≠ some player := nofun
    refine .quiet (fun _ => Iff.rfl) (fun _ => rfl)
      (fun player => ⟨(leaving player).1, (leaving player).2 (stays player)⟩) ?_ (by simp)
    intro player
    rw [returning player]
    simp

end Steps

theorem gateway_moves (shuffler : Shuffler ρ) (protobuf : Protobuf) {before : Presence ρ}
    (sound : before.Sound) (event : Event) (moment : Moment)
    (other : ∀ index result, event ≠ .jobDone index result) :
    ∃ notes gateway, before.gateway.step shuffler protobuf event moment = .ok (notes, gateway) ∧
      ({ before with gateway } : Presence ρ).Sound ∧
      PresenceMove before (.gateway event) notes { before with gateway } := by
  obtain ⟨notes, gateway, done, _⟩ := step_moves shuffler protobuf sound.manager event moment
  refine ⟨notes, gateway, done, ?_⟩
  -- the queue grows at its end
  have grown : ∀ {more}, gateway.jobs = before.gateway.jobs ++ more →
      ∀ index result, before.answers index = some result →
        index < backendThreads ∧ index < gateway.jobs.length := by
    intro more jobs index result found
    obtain ⟨running, inside⟩ := sound.answered index result found
    rw [jobs, List.length_append]
    exact ⟨running, by omega⟩
  cases step_calls done with
  | same same =>
    obtain ⟨more, jobs, _⟩ := same.jobs
    obtain ⟨kept, move⟩ := sound_gateway sound before.answers done (grown jobs)
    obtain ⟨_, quiet⟩ | ⟨counted, _⟩ := login_notes move
    · exact ⟨kept, same_move sound same quiet _⟩
    · rw [same.notifier] at counted
      exact absurd counted (Nat.lt_succ_self _).ne
  | returned _ kind => exact absurd kind (other _ _)
  | @completed index completion idle kind found notifier jobs completions =>
    have jobs_nil : gateway.jobs = before.gateway.jobs ++ [] := by rw [jobs, List.append_nil]
    obtain ⟨kept, move⟩ := sound_gateway sound before.answers done (grown jobs_nil)
    subst kind
    refine ⟨kept, completed_move found notifier jobs completions ?_⟩
    split
    · next success =>
      rw [if_pos success] at notifier
      obtain ⟨stays, _⟩ | ⟨_, place, other, same, present, notes⟩ := login_notes move
      · rw [notifier] at stays
        exact absurd stays (Nat.lt_succ_self _).ne'
      · cases same
        rw [found] at present
        cases present
        exact notes
    · next failure =>
      rw [if_neg failure] at notifier
      obtain ⟨_, quiet⟩ | ⟨counted, _⟩ := login_notes move
      · exact quiet
      · rw [notifier] at counted
        exact absurd counted (Nat.lt_succ_self _).ne
  | finished kind head present notifier jobs completions =>
    obtain ⟨kept, move⟩ := sound_gateway sound before.answers done (grown jobs)
    subst kind
    obtain ⟨_, quiet⟩ | ⟨counted, _⟩ := login_notes move
    · exact ⟨kept, finished_move sound head present notifier jobs completions quiet⟩
    · rw [notifier, released_nextToken] at counted
      exact absurd counted (Nat.lt_succ_self _).ne

/-- A step that changes nothing. -/
theorem still_move (before : Presence ρ) (event : PresenceEvent) : PresenceMove before event [] before :=
  .quiet (fun _ => Iff.rfl) (fun _ => rfl) (fun _ => Iff.rfl) (fun _ => Iff.rfl) (by simp)

theorem step_gateway (shuffler : Shuffler ρ) (protobuf : Protobuf) (system : Presence ρ) {event : Event}
    (moment : Moment) (other : ∀ index result, event ≠ .jobDone index result) :
    system.step shuffler protobuf (.gateway event) moment = (do
      let (notes, gateway) ← system.gateway.step shuffler protobuf event moment
      .ok (notes, { system with gateway })) := by
  cases event with
  | jobDone index result => exact absurd rfl (other index result)
  | _ => rfl

/-- A thread that has its answer goes on to the next job. -/
theorem returned_moves {before : Presence ρ} {gateway : GatewayProcess ρ} {index : Nat}
    {result chosen : LoginResult} {moment : Moment} {notes : List Note} (sound : before.Sound)
    (idle : before.gateway.agenda = []) (handled : before.answers index = some result)
    (done : before.gateway.step shuffler protobuf (.jobDone index result) moment = .ok (notes, gateway)) :
    ({ before with gateway, answers := without before.answers index } : Presence ρ).Sound ∧
      PresenceMove before (.gateway (.jobDone index chosen)) notes
        { before with gateway, answers := without before.answers index } := by
  obtain ⟨running, inside⟩ := sound.answered index result handled
  obtain ⟨job, found⟩ : ∃ job, before.gateway.jobs[index]? = some job :=
    ⟨_, List.getElem?_eq_getElem inside⟩
  have comes : gateway.notifier = before.gateway.notifier ∧
      gateway.jobs = before.gateway.jobs.eraseIdx index ∧
      gateway.completions = before.gateway.completions ++
        (match job with
          | .login session requested => [{ session, requested, result }]
          | .markOffline _ | .settle _ => []) ∧ notes = [] := by
    simp only [GatewayProcess.step, idle, GatewayProcess.handle, running, if_true, found] at done
    cases job <;> cases done <;> simp
  obtain ⟨notifier, jobs, completions, rfl⟩ := comes
  refine ⟨(sound_gateway sound _ done ?_).1,
    returned_move found handled notifier jobs completions (by simp)⟩
  intro other later answered
  rw [jobs, List.length_eraseIdx, if_pos inside]
  -- the jobs behind it move up by one
  unfold without at answered
  split at answered
  · next earlier => exact ⟨(sound.answered other later answered).1, by omega⟩
  · next past =>
    obtain ⟨running, inside⟩ := sound.answered (other + 1) later answered
    exact ⟨by omega, by omega⟩

theorem presence_moves (shuffler : Shuffler ρ) (protobuf : Protobuf) {before : Presence ρ}
    (sound : before.Sound) (event : PresenceEvent) (moment : Moment) :
    ∃ notes after, before.step shuffler protobuf event moment = .ok (notes, after) ∧ after.Sound ∧
      PresenceMove before event notes after := by
  cases event with
  | handled index =>
    simp only [Presence.step]
    cases found : before.gateway.jobs[index]? with
    | none => exact ⟨[], before, rfl, sound, still_move before _⟩
    | some job =>
      cases waits : before.answers index with
      | some result => exact ⟨[], before, rfl, sound, still_move before _⟩
      | none =>
        by_cases running : index < backendThreads
        · simp only [running, if_true]
          refine ⟨_, _, rfl, ⟨sound.manager, sound.tokens, sound.closing, ?_⟩,
            handled_move running found waits⟩
          intro other result answered
          by_cases same : other = index
          · subst same
            exact ⟨running, (List.getElem?_eq_some_iff.mp found).1⟩
          · have old := (Function.update_of_ne same ..).symm.trans answered
            exact sound.answered other result old
        · simp only [running, if_false]
          exact ⟨[], before, rfl, sound, still_move before _⟩
  | gateway event =>
    -- a thread goes on only with the answer that it has
    by_cases pool : ∃ index chosen, event = .jobDone index chosen
    · obtain ⟨index, chosen, rfl⟩ := pool
      simp only [Presence.step]
      cases idle : before.gateway.agenda with
      | cons task rest => exact ⟨[], before, rfl, sound, still_move before _⟩
      | nil =>
        cases handled : before.answers index with
        | none => exact ⟨[], before, rfl, sound, still_move before _⟩
        | some result =>
          obtain ⟨notes, gateway, done, _⟩ :=
            step_moves shuffler protobuf sound.manager (.jobDone index result) moment
          obtain ⟨kept, move⟩ := returned_moves sound idle handled done
          simp only [done, bind, Except.bind]
          exact ⟨_, _, rfl, kept, move⟩
    · have other : ∀ index result, event ≠ .jobDone index result :=
        fun index result same => pool ⟨index, result, same⟩
      obtain ⟨notes, gateway, done, kept, move⟩ :=
        gateway_moves shuffler protobuf sound event moment other
      refine ⟨notes, _, ?_, kept, move⟩
      rw [step_gateway shuffler protobuf before moment other, done]
      rfl

end Doudizhu.Backend
