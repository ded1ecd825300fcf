import Doudizhu.Gateway.Refusals

/-! # What the handlers leave alone

Most of a handler only asks the room manager, and leaves calls for the agenda and the
backend.  The sessions, the notifier and the logins that are on their way back change in a
few places, and only `close` posts the job that marks a player offline.
-/

namespace Doudizhu.Gateway

open Game

variable {ρ : Type} {shuffler : Shuffler ρ} {protobuf : Protobuf}

/-! ## Posting -/

/-- The player whom a job marks offline. -/
def Job.leaver : Job → Option PlayerId
  | .markOffline player => some player
  | .login _ _ | .settle _ => none

/-- Logins and settlements were posted, or nothing was. -/
def Posts (before after : List Job) : Prop :=
  ∃ more, after = before ++ more ∧ ∀ job ∈ more, job.leaver = none

theorem Posts.refl (jobs : List Job) : Posts jobs jobs := ⟨[], by simp, by simp⟩

theorem Posts.single (jobs : List Job) {job : Job} (stays : job.leaver = none) :
    Posts jobs (jobs ++ [job]) :=
  ⟨[job], rfl, by simpa using stays⟩

/-- Nobody is registered, no login comes back, and nobody is marked offline. -/
structure SameCalls (before after : GatewayProcess ρ) : Prop where
  notifier : after.notifier = before.notifier
  completions : after.completions = before.completions
  jobs : Posts before.jobs after.jobs

theorem SameCalls.refl (gateway : GatewayProcess ρ) : SameCalls gateway gateway :=
  ⟨rfl, rfl, .refl _⟩

/-- The sessions stay as they are too. -/
structure Aside (before after : GatewayProcess ρ) : Prop extends SameCalls before after where
  sessions : after.sessions = before.sessions

/-! ## Handlers -/

section Handlers

variable {base after : GatewayProcess ρ} {moment : Moment} {id : SessionId} {notes : List Note}

theorem calls_aside {tasks : List Task} (done : base.calls tasks = .ok (notes, after)) :
    Aside base after := by
  cases done
  exact ⟨⟨rfl, rfl, .refl _⟩, rfl⟩

theorem served_aside {session : Session} (served : Served shuffler base moment id session after) :
    Aside base after := by
  cases served with
  | login requested => exact ⟨⟨rfl, rfl, .single _ rfl⟩, rfl⟩
  | _ => exact ⟨⟨rfl, rfl, .refl _⟩, rfl⟩

theorem dispatch_aside {session : Session} {messageId : Nat} {body : Bytes}
    (done : base.dispatch shuffler protobuf moment id session messageId body = .ok (notes, after)) :
    Aside base after := by
  have dispatched := dispatch_cases shuffler protobuf base moment id session messageId body
  rw [done] at dispatched
  exact served_aside dispatched.served

/-! ## Packets -/

/-- What a session changes for itself when it reads does not count. -/
theorem sameCalls_reads : ReadRule shuffler moment id (@SameCalls ρ) where
  update same := ⟨same.notifier, same.completions, same.jobs⟩
  still := .refl
  served served := (served_aside served).toSameCalls

end Handlers

/-! ## Steps -/

/-- What a step does to the notifier, to the jobs and to the logins on their way back. -/
inductive CallMove (before : GatewayProcess ρ) (event : Event) (after : GatewayProcess ρ) : Prop where
  | same : SameCalls before after → CallMove before event after
  /-- A thread is done with a job. -/
  | returned {index : Nat} {job : Job} {result : LoginResult} :
      before.agenda = [] → event = .jobDone index result → index < backendThreads →
      before.jobs[index]? = some job → after.notifier = before.notifier →
      after.jobs = before.jobs.eraseIdx index →
      after.completions = before.completions ++
        (match job with
          | .login session requested => [{ session, requested, result }]
          | .markOffline _ | .settle _ => []) →
      CallMove before event after
  /-- A login has come back. -/
  | completed {index : Nat} {completion : LoginCompletion} :
      before.agenda = [] → event = .loginCompleted index →
      before.completions[index]? = some completion →
      after.notifier = (if completion.result.success then
        (before.notifier.registerPlayer completion.result.playerId completion.session).2
        else before.notifier) →
      after.jobs = before.jobs → after.completions = before.completions.eraseIdx index →
      CallMove before event after
  /-- A session has closed that was registered. -/
  | finished {id : SessionId} {face : Face} :
      event = .next → before.agenda.head? = some (.finishClose id) → before.face id = some face →
      after.notifier = released before.notifier (some face) →
      after.jobs = before.jobs ++ [.markOffline face.playerId] →
      after.completions = before.completions → CallMove before event after

section Steps

variable {before after : GatewayProcess ρ} {moment : Moment} {notes : List Note}

theorem completeLogin_calls {index : Nat} {completion : LoginCompletion} (idle : before.agenda = [])
    (found : before.completions[index]? = some completion)
    (done : ({ before with completions := before.completions.eraseIdx index } :
      GatewayProcess ρ).completeLogin moment completion = .ok (notes, after)) :
    CallMove before (.loginCompleted index) after := by
  cases completeLogin_cases done with
  | refused failure => exact .completed idle rfl found (by rw [failure]; rfl) rfl rfl
  | accepted success => exact .completed idle rfl found (by rw [success]; rfl) rfl rfl

theorem handle_calls {event : Event} (idle : before.agenda = [])
    (done : before.handle shuffler protobuf moment event = .ok (notes, after)) :
    CallMove before event after := by
  have happened := handle_cases shuffler protobuf before moment event
  generalize before.handle shuffler protobuf moment event = outcome at done happened
  cases happened with
  | nothing =>
    cases done
    exact .same (.refl before)
  | accepted | shaken | unshaken | written | unwritten | expired =>
    cases done
    exact .same ⟨rfl, rfl, .refl _⟩
  -- a read posts calls only through the packet that it handles
  | headerRead => exact .same (sameCalls_reads.headerRead done)
  | bodyRead => exact .same (sameCalls_reads.bodyRead done)
  | frameRead => exact .same (sameCalls_reads.frameRead done)
  | returned running found =>
    cases done
    exact .returned idle rfl running found rfl rfl rfl
  | loginCompleted found => exact completeLogin_calls idle found done
  | cleanup =>
    obtain ⟨⟨actions, manager⟩, _, done⟩ := ExceptLoop.bind_ok.mp done
    cases done
    exact .same ⟨rfl, rfl, .refl _⟩

theorem perform_calls {task : Task} {rest : List Task} (agenda : before.agenda = task :: rest)
    (done : ({ before with agenda := rest } : GatewayProcess ρ).perform protobuf moment task =
      .ok (notes, after)) : CallMove before .next after := by
  cases perform_cases done with
  | @finished id session found =>
    have head : before.agenda.head? = some (.finishClose id) := by rw [agenda, List.head?_cons]
    exact .finished rfl head (face_of_session found) rfl rfl rfl
  | posted => exact .same ⟨rfl, rfl, .single _ rfl⟩
  | _ => exact .same ⟨rfl, rfl, .refl _⟩

theorem step_calls {event : Event}
    (done : before.step shuffler protobuf event moment = .ok (notes, after)) :
    CallMove before event after := by
  cases agenda : before.agenda with
  | nil =>
    simp only [GatewayProcess.step, agenda] at done
    exact handle_calls agenda done
  | cons task rest =>
    simp only [GatewayProcess.step, agenda] at done
    split at done
    · exact perform_calls agenda done
    · cases done
      exact .same (.refl before)

end Steps

end Doudizhu.Gateway
