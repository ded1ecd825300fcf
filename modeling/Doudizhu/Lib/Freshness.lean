import Mathlib.Logic.Basic

/-! # Copies of what changes

`view key` is what there is to see for `key`, if anything, and `shown key value` says that
the value is what `key` has last been shown.  Copies are fresh as long as whoever has not
been shown what there is, is due to be shown it.

* `Fresh.change` — what changes makes whoever sees it due;
* `Fresh.tell` — whoever is shown what there is, is due no longer;
* `Fresh.settled` — where nobody is due, everybody has been shown what there is.
-/

namespace Copies

variable {κ ν : Type}

def Fresh (view : κ → Option ν) (shown : κ → ν → Prop) (due : κ → Prop) : Prop :=
  ∀ key value, view key = some value → due key ∨ shown key value

variable {view viewAfter : κ → Option ν} {shown shownAfter : κ → ν → Prop} {due dueAfter : κ → Prop}

/-- Whoever sees something new is due, and so is whoever loses a copy. -/
theorem Fresh.change (fresh : Fresh view shown due)
    (seen : ∀ key value, viewAfter key = some value → dueAfter key ∨ view key = some value)
    (later : ∀ key, due key → dueAfter key)
    (kept : ∀ key value, shown key value → dueAfter key ∨ shownAfter key value) :
    Fresh viewAfter shownAfter dueAfter := by
  intro key value sees
  obtain new | old := seen key value sees
  · exact .inl new
  obtain waits | copy := fresh key value old
  · exact .inl (later key waits)
  · exact kept key value copy

/-- One is shown what there is; nothing changes for the others. -/
theorem Fresh.tell (fresh : Fresh view shown due) (told : κ)
    (own : ∀ value, view told = some value → shownAfter told value)
    (waits : ∀ key, key ≠ told → due key → dueAfter key)
    (kept : ∀ key value, key ≠ told → shown key value → shownAfter key value) :
    Fresh view shownAfter dueAfter := by
  intro key value sees
  by_cases same : key = told
  · subst same
    exact .inr (own value sees)
  · obtain due | copy := fresh key value sees
    · exact .inl (waits key same due)
    · exact .inr (kept key value same copy)

theorem Fresh.settled (fresh : Fresh view shown due) (nobody : ∀ key, ¬ due key) {key : κ} {value : ν}
    (sees : view key = some value) : shown key value :=
  (fresh key value sees).resolve_left (nobody key)

end Copies
