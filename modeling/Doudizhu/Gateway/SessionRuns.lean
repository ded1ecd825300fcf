import Doudizhu.Gateway.SessionMoves

/-! # Runs of the gateway

Every run of the gateway goes on, whatever comes in, and every step of it is a move from a
state with sound rooms.
-/

namespace Doudizhu.Gateway

open Game

variable {ρ : Type} {shuffler : Shuffler ρ} {protobuf : Protobuf}

def GatewayStep (shuffler : Shuffler ρ) (protobuf : Protobuf) (before : GatewayProcess ρ)
    (taken : Taken ρ) (after : GatewayProcess ρ) : Prop :=
  taken.before = before ∧ taken.after = after ∧
    before.step shuffler protobuf taken.event taken.moment = .ok (taken.notes, after)

theorem GatewayProcess.worksOff (shuffler : Shuffler ρ) (protobuf : Protobuf) :
    Transition.WorksOff (GatewayStep shuffler protobuf)
      (fun gateway input => gateway.step shuffler protobuf input.1 input.2)
      (fun gateway input notes next => ⟨gateway, input.1, input.2, notes, next⟩)
      (GatewayProcess.run shuffler protobuf) where
  nil _ := rfl
  cons _ _ _ := rfl
  move done := ⟨rfl, rfl, done⟩

theorem GatewayProcess.run_cons {gateway finish : GatewayProcess ρ} {event : Event} {moment : Moment}
    {inputs : List (Event × Moment)} {trace : List (Taken ρ)} :
    gateway.run shuffler protobuf ((event, moment) :: inputs) = .ok (trace, finish) ↔
      ∃ notes next later, gateway.step shuffler protobuf event moment = .ok (notes, next) ∧
        next.run shuffler protobuf inputs = .ok (later, finish) ∧
        trace = ⟨gateway, event, moment, notes, next⟩ :: later :=
  (GatewayProcess.worksOff shuffler protobuf).cons_ok

theorem GatewayProcess.run_steps {gateway finish : GatewayProcess ρ} {inputs : List (Event × Moment)}
    {trace : List (Taken ρ)} (ran : gateway.run shuffler protobuf inputs = .ok (trace, finish)) :
    Transition.Steps (GatewayStep shuffler protobuf) gateway trace finish :=
  (GatewayProcess.worksOff shuffler protobuf).steps ran

theorem GatewayStep.moves {before after : GatewayProcess ρ} {taken : Taken ρ}
    (sound : ManagerInv before.manager) (step : GatewayStep shuffler protobuf before taken after) :
    ManagerInv after.manager ∧ GatewayMove before taken.event taken.notes after := by
  obtain ⟨notes, next, done, kept, move⟩ :=
    step_moves shuffler protobuf sound taken.event taken.moment
  rw [step.2.2] at done
  cases done
  exact ⟨kept, move⟩

/-- With sound rooms, no access fails. -/
theorem GatewayProcess.run_goes (shuffler : Shuffler ρ) (protobuf : Protobuf)
    {gateway : GatewayProcess ρ} (sound : ManagerInv gateway.manager) (inputs : List (Event × Moment)) :
    ∃ trace finish, gateway.run shuffler protobuf inputs = .ok (trace, finish) := by
  have runs := (GatewayProcess.worksOff shuffler protobuf).goes
    (fun _ gateway => ManagerInv gateway.manager) ?_ sound inputs
  · obtain ⟨trace, finish, ran, _⟩ := runs
    exact ⟨trace, finish, ran⟩
  · intro _ before ⟨event, moment⟩ sound
    obtain ⟨notes, next, done, sound, _⟩ := step_moves shuffler protobuf sound event moment
    exact ⟨notes, next, done, sound⟩

/-- From the start, with the steps that are taken. -/
theorem gateway_runs (shuffler : Shuffler ρ) (protobuf : Protobuf) (random : ρ)
    (inputs : List (Event × Moment)) :
    ∃ trace finish, ({ manager := { random } } : GatewayProcess ρ).run shuffler protobuf inputs =
        .ok (trace, finish) ∧
      Transition.Steps (GatewayStep shuffler protobuf) { manager := { random } } trace finish := by
  have sound : ManagerInv ({ manager := { random } } : GatewayProcess ρ).manager :=
    managerInv_empty random
  obtain ⟨trace, finish, ran⟩ := GatewayProcess.run_goes shuffler protobuf sound inputs
  exact ⟨trace, finish, ran, GatewayProcess.run_steps ran⟩

/-- What every move from a sound state keeps, a run keeps. -/
theorem gateway_history (Holds : List (Taken ρ) → GatewayProcess ρ → Prop) {random : ρ}
    {trace : List (Taken ρ)} {finish : GatewayProcess ρ}
    (run : Transition.Steps (GatewayStep shuffler protobuf) { manager := { random } } trace finish)
    (initial : Holds [] { manager := { random } })
    (kept : ∀ trace before (taken : Taken ρ), taken.before = before → Holds trace before →
      GatewayMove before taken.event taken.notes taken.after → Holds (trace ++ [taken]) taken.after) :
    ManagerInv finish.manager ∧ Holds trace finish := by
  refine run.history (fun trace gateway => ManagerInv gateway.manager ∧ Holds trace gateway)
    ⟨managerInv_empty random, initial⟩ ?_
  intro trace before taken after _ ⟨sound, holds⟩ step
  obtain ⟨sound, move⟩ := step.moves sound
  obtain ⟨own, rfl, _⟩ := step
  exact ⟨sound, kept trace before taken own holds move⟩

end Doudizhu.Gateway
