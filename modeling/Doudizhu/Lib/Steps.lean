import Mathlib.Data.List.Induction
import Doudizhu.Lib.ExceptLoop

/-! # Labelled runs

A system is a step relation `step : σ → ε → σ → Prop` over states `σ` whose
labels `ε` say what a step did.  `Steps step start trace finish` is a run from
`start` to `finish` with the labels `trace`, oldest first.

The rules of the module:

* `Steps.invariant` — a property of states kept by every step holds wherever a
  run leads;
* `Steps.history` — the same for a property that also speaks of the labels so
  far, which is how a ghost history is reasoned about;
* `Steps.bounded` — a measure that every counted step lowers bounds the number
  of counted steps;
* `WorksOff.steps` and `WorksOff.goes` — a function that works off a list of inputs
  call by call runs the system, and returns where every call returns.
-/

namespace Transition

variable {σ ε : Type}

inductive Steps (step : σ → ε → σ → Prop) (start : σ) : List ε → σ → Prop where
  | refl : Steps step start [] start
  | snoc {trace : List ε} {middle finish : σ} {label : ε} :
      Steps step start trace middle → step middle label finish →
      Steps step start (trace ++ [label]) finish

variable {step : σ → ε → σ → Prop} {start middle finish : σ}

theorem Steps.single {label : ε} (move : step start label finish) :
    Steps step start [label] finish :=
  .snoc .refl move

theorem Steps.trans {before after : List ε} (left : Steps step start before middle)
    (right : Steps step middle after finish) : Steps step start (before ++ after) finish := by
  induction right with
  | refl => simpa using left
  | snoc _ move inductionHypothesis =>
    rw [← List.append_assoc]
    exact .snoc inductionHypothesis move

/-- A run whose labels split at some point passes through a state there. -/
theorem Steps.split {before after : List ε} (run : Steps step start (before ++ after) finish) :
    ∃ middle, Steps step start before middle ∧ Steps step middle after finish := by
  induction after using List.reverseRecOn generalizing finish with
  | nil => exact ⟨finish, by simpa using run, .refl⟩
  | append_singleton after label inductionHypothesis =>
    rw [← List.append_assoc] at run
    generalize equal : before ++ after ++ [label] = trace at run
    cases run with
    | refl => simp at equal
    | snoc earlier move =>
      obtain ⟨rfl, same⟩ := List.append_inj' equal rfl
      cases same
      obtain ⟨middle, left, right⟩ := inductionHypothesis earlier
      exact ⟨middle, left, .snoc right move⟩

theorem Steps.nil_inv (run : Steps step start [] finish) : finish = start := by
  generalize equal : ([] : List ε) = trace at run
  cases run with
  | refl => rfl
  | snoc => simp at equal

theorem Steps.single_inv {label : ε} (run : Steps step start [label] finish) :
    step start label finish := by
  generalize equal : [label] = trace at run
  cases run with
  | refl => cases equal
  | snoc earlier move =>
    rw [← List.nil_append [label]] at equal
    obtain ⟨rfl, same⟩ := List.append_inj' equal rfl
    cases same
    rwa [earlier.nil_inv] at move

/-- A label of a run is a step that was taken there. -/
theorem Steps.split_cons {before after : List ε} {label : ε}
    (run : Steps step start (before ++ label :: after) finish) :
    ∃ left right, Steps step start before left ∧ step left label right ∧
      Steps step right after finish := by
  rw [List.append_cons] at run
  obtain ⟨right, run, rest⟩ := run.split
  obtain ⟨left, run, last⟩ := run.split
  exact ⟨left, right, run, last.single_inv, rest⟩

/-- The invariant rule. -/
theorem Steps.invariant (Holds : σ → Prop) {trace : List ε} (run : Steps step start trace finish)
    (initial : Holds start)
    (kept : ∀ before label after, Holds before → step before label after → Holds after) :
    Holds finish := by
  induction run with
  | refl => exact initial
  | snoc _ move inductionHypothesis => exact kept _ _ _ inductionHypothesis move

/-- The invariant rule for properties that also speak of the labels so far. -/
theorem Steps.history (Holds : List ε → σ → Prop) {trace : List ε}
    (run : Steps step start trace finish) (initial : Holds [] start)
    (kept : ∀ trace before label after, Steps step start trace before → Holds trace before →
      step before label after → Holds (trace ++ [label]) after) :
    Holds trace finish := by
  induction run with
  | refl => exact initial
  | snoc earlier move inductionHypothesis => exact kept _ _ _ _ earlier inductionHypothesis move

/-- Every step of a run was taken in a state with the invariant. -/
theorem Steps.step_of_mem (Holds : σ → Prop) {trace : List ε} {label : ε}
    (run : Steps step start trace finish) (initial : Holds start)
    (kept : ∀ before label after, Holds before → step before label after → Holds after)
    (member : label ∈ trace) : ∃ before after, Holds before ∧ step before label after := by
  induction run with
  | refl => cases member
  | snoc earlier move inductionHypothesis =>
    obtain before | last := List.mem_append.mp member
    · exact inductionHypothesis before
    · rw [List.mem_singleton.mp last]
      exact ⟨_, _, earlier.invariant Holds initial kept, move⟩

/-- A measure that no step raises and every counted step lowers bounds the number
    of counted steps of a run. -/
theorem Steps.bounded (Holds : σ → Prop) (measure : σ → Nat) {counted : ε → Bool} {trace : List ε}
    (run : Steps step start trace finish) (initial : Holds start)
    (kept : ∀ before label after, Holds before → step before label after → Holds after)
    (lowered : ∀ before label after, Holds before → step before label after →
      measure after + (if counted label then 1 else 0) ≤ measure before) :
    trace.countP counted + measure finish ≤ measure start := by
  suffices Holds finish ∧ trace.countP counted + measure finish ≤ measure start from this.2
  induction run with
  | refl => exact ⟨initial, by simp⟩
  | snoc _ move inductionHypothesis =>
    obtain ⟨holds, bound⟩ := inductionHypothesis
    have drop := lowered _ _ _ holds move
    refine ⟨kept _ _ _ holds move, ?_⟩
    rw [List.countP_append, List.countP_singleton]
    omega

/-! ## Functions that run the system -/

variable {α ι φ : Type} {call : σ → ι → Except φ (α × σ)} {label : σ → ι → α → σ → ε}
  {run : σ → List ι → Except φ (List ε × σ)} {first : ι} {inputs : List ι} {trace : List ε}

/-- `run` works off its inputs one after another: it makes a `call` for each, which is the
    step with the given label. -/
structure WorksOff (step : σ → ε → σ → Prop) (call : σ → ι → Except φ (α × σ))
    (label : σ → ι → α → σ → ε) (run : σ → List ι → Except φ (List ε × σ)) : Prop where
  nil (start : σ) : run start [] = .ok ([], start)
  cons (start : σ) (first : ι) (inputs : List ι) : run start (first :: inputs) = do
    let (answer, middle) ← call start first
    let (later, finish) ← run middle inputs
    .ok (label start first answer middle :: later, finish)
  move {before after : σ} {first : ι} {answer : α} : call before first = .ok (answer, after) →
    step before (label before first answer after) after

theorem WorksOff.cons_ok (works : WorksOff step call label run) :
    run start (first :: inputs) = .ok (trace, finish) ↔
      ∃ answer middle later, call start first = .ok (answer, middle) ∧
        run middle inputs = .ok (later, finish) ∧
        trace = label start first answer middle :: later := by
  rw [works.cons]
  constructor
  · intro ran
    obtain ⟨⟨answer, middle⟩, done, ran⟩ := ExceptLoop.bind_ok.mp ran
    obtain ⟨⟨later, last⟩, rest, same⟩ := ExceptLoop.bind_ok.mp ran
    cases same
    exact ⟨answer, middle, later, done, rest, rfl⟩
  · rintro ⟨answer, middle, later, done, rest, rfl⟩
    exact ExceptLoop.bind_ok.mpr ⟨_, done, ExceptLoop.bind_ok.mpr ⟨_, rest, rfl⟩⟩

theorem WorksOff.steps (works : WorksOff step call label run)
    (ran : run start inputs = .ok (trace, finish)) : Steps step start trace finish := by
  induction inputs generalizing start trace with
  | nil =>
    rw [works.nil] at ran
    cases ran
    exact .refl
  | cons first inputs inductionHypothesis =>
    obtain ⟨answer, middle, later, done, rest, rfl⟩ := works.cons_ok.mp ran
    exact (Steps.single (works.move done)).trans (inductionHypothesis rest)

/-- It goes on where it left off. -/
theorem WorksOff.append (works : WorksOff step call label run) {others : List ι} {later : List ε}
    (ran : run start inputs = .ok (trace, middle)) (rest : run middle others = .ok (later, finish)) :
    run start (inputs ++ others) = .ok (trace ++ later, finish) := by
  induction inputs generalizing start trace with
  | nil =>
    rw [works.nil] at ran
    cases ran
    exact rest
  | cons first inputs inductionHypothesis =>
    obtain ⟨answer, next, steps, done, more, rfl⟩ := works.cons_ok.mp ran
    exact works.cons_ok.mpr ⟨answer, next, steps ++ later, done, inductionHypothesis more, rfl⟩

/-- Where every call returns and keeps what holds of the labels so far, so does the run. -/
theorem WorksOff.goes (works : WorksOff step call label run) (Holds : List ε → σ → Prop)
    (returns : ∀ trace before first, Holds trace before → ∃ answer after,
      call before first = .ok (answer, after) ∧
      Holds (trace ++ [label before first answer after]) after)
    (initial : Holds [] start) (inputs : List ι) :
    ∃ trace finish, run start inputs = .ok (trace, finish) ∧ Holds trace finish := by
  suffices ∀ start earlier, Holds earlier start →
      ∃ trace finish, run start inputs = .ok (trace, finish) ∧ Holds (earlier ++ trace) finish from
    this start [] initial
  induction inputs with
  | nil =>
    intro start earlier holds
    exact ⟨[], start, works.nil start, by simpa using holds⟩
  | cons first inputs inductionHypothesis =>
    intro start earlier holds
    obtain ⟨answer, middle, done, holds⟩ := returns earlier start first holds
    obtain ⟨later, finish, rest, kept⟩ := inductionHypothesis middle _ holds
    refine ⟨_, finish, works.cons_ok.mpr ⟨answer, middle, later, done, rest, rfl⟩, ?_⟩
    rwa [List.append_assoc] at kept

end Transition
