import Doudizhu.Lib.Steps

/-! # Simulations

A system simulates another when its steps, as they are seen from outside, are steps of the
other.  `Related` ties the states of the two together; a step that is seen as nothing
leaves the other system where it is.

* `Simulation.run` — what is seen of a run is a run.
-/

namespace Transition

variable {σ ε τ κ : Type}

structure Simulation (concrete : σ → ε → σ → Prop) (abstract : τ → κ → τ → Prop)
    (seen : ε → Option κ) (Related : σ → τ → Prop) : Prop where
  silent {before after : σ} {label : ε} {spec : τ} : Related before spec →
    concrete before label after → seen label = none → Related after spec
  visible {before after : σ} {label : ε} {spec : τ} {act : κ} : Related before spec →
    concrete before label after → seen label = some act →
    ∃ next, abstract spec act next ∧ Related after next

variable {concrete : σ → ε → σ → Prop} {abstract : τ → κ → τ → Prop} {seen : ε → Option κ}
  {Related : σ → τ → Prop} {start finish : σ} {spec : τ} {trace : List ε}

/-- What is seen of a run is a run. -/
theorem Simulation.run (simulation : Simulation concrete abstract seen Related)
    (run : Steps concrete start trace finish) (related : Related start spec) :
    ∃ last, Steps abstract spec (trace.filterMap seen) last ∧ Related finish last := by
  induction run with
  | refl => exact ⟨spec, .refl, related⟩
  | @snoc trace middle finish label _ move inductionHypothesis =>
    obtain ⟨last, steps, holds⟩ := inductionHypothesis
    rw [List.filterMap_append]
    cases sight : seen label with
    | none =>
      refine ⟨last, ?_, simulation.silent holds move sight⟩
      simpa [sight] using steps
    | some act =>
      obtain ⟨next, step, kept⟩ := simulation.visible holds move sight
      refine ⟨next, ?_, kept⟩
      simpa [sight] using steps.snoc step

end Transition
