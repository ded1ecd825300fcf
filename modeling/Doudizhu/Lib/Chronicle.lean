import Mathlib.Data.List.Basic

/-! # Logs about many subjects

One log records what happens to many things, each event with its subject.  What the log
says of one subject is the story of where that subject stands.

* `Tells.step` — events about one subject go on with its story and leave the others alone.
-/

namespace Chronicle

variable {κ ε σ : Type} [DecidableEq κ]

/-- What the log says of one subject. -/
def about (subject : ε → κ) (log : List ε) (key : κ) : List ε :=
  log.filter fun event => subject event = key

/-- Of every subject the log tells the story of where it stands. -/
def Tells (subject : ε → κ) (Story : κ → List ε → σ → Prop) (log : List ε) (place : κ → σ) : Prop :=
  ∀ key, Story key (about subject log key) (place key)

variable {subject : ε → κ} {Story : κ → List ε → σ → Prop} {log more : List ε} {before after : κ → σ}
  {key : κ}

theorem about_own (own : ∀ event ∈ more, subject event = key) :
    about subject (log ++ more) key = about subject log key ++ more := by
  have all : more.filter (fun event => decide (subject event = key)) = more :=
    List.filter_eq_self.mpr (by simpa using own)
  rw [about, List.filter_append, all]
  rfl

theorem about_other {other : κ} (own : ∀ event ∈ more, subject event = key) (differ : other ≠ key) :
    about subject (log ++ more) other = about subject log other := by
  have none : more.filter (fun event => decide (subject event = other)) = [] := by
    rw [List.filter_eq_nil_iff]
    intro event member
    rw [own event member, decide_eq_true_iff]
    exact fun same => differ same.symm
  rw [about, List.filter_append, none, List.append_nil]
  rfl

/-- Events about one subject go on with its story. -/
theorem Tells.step (tells : Tells subject Story log before) (own : ∀ event ∈ more, subject event = key)
    (others : ∀ other, other ≠ key → after other = before other)
    (goes : Story key (about subject log key) (before key) →
      Story key (about subject log key ++ more) (after key)) :
    Tells subject Story (log ++ more) after := by
  intro other
  by_cases same : other = key
  · subst same
    rw [about_own own]
    exact goes (tells other)
  · rw [about_other own same, others other same]
    exact tells other

end Chronicle
