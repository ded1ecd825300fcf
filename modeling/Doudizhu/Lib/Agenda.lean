import Mathlib.Logic.Hydra
import Mathlib.Data.Prod.Lex
import Mathlib.Tactic.Abel

/-! # Agendas that come to an end

A handler is a list of calls, of which the first is made next.  A call may put other calls
in its place, as many as it likes, if each is of a lower rank; or of any rank, if it spends
something of which there is only so much.

* `wellFounded_lowers` — such a handler ends.
-/

namespace Agenda

variable {σ τ : Type} (budget : σ → Nat) (rank : τ → Nat) (agenda : σ → List τ)

def Lowers (after before : σ) : Prop :=
  budget after < budget before ∨
    (budget after = budget before ∧ ∃ task rest tasks, agenda before = task :: rest ∧
      agenda after = tasks ++ rest ∧ ∀ added ∈ tasks, rank added < rank task)

/-- The ranks of the calls that are left. -/
def ranks (state : σ) : Multiset Nat := ((agenda state).map rank : List Nat)

variable {budget rank agenda}

theorem cutExpand_ranks {before after : σ} {task : τ} {rest tasks : List τ}
    (was : agenda before = task :: rest) (now : agenda after = tasks ++ rest)
    (lower : ∀ added ∈ tasks, rank added < rank task) :
    Relation.CutExpand (· < ·) (ranks rank agenda after) (ranks rank agenda before) := by
  refine ⟨((tasks.map rank : List Nat) : Multiset Nat), rank task, ?_, ?_⟩
  · intro other member
    rw [Multiset.mem_coe, List.mem_map] at member
    obtain ⟨added, member, rfl⟩ := member
    exact lower added member
  · -- the call that is made against the calls that it leaves
    rw [ranks, ranks, was, now, List.map_append, List.map_cons, ← Multiset.coe_add, ← Multiset.cons_coe,
      ← Multiset.singleton_add]
    abel

theorem wellFounded_lowers : WellFounded (Lowers budget rank agenda) := by
  have lexicographic := WellFounded.prod_lex Nat.lt_wfRel.wf (Nat.lt_wfRel.wf.cutExpand)
  refine Subrelation.wf ?_
    (InvImage.wf (fun state => (budget state, ranks rank agenda state)) lexicographic)
  intro after before lowers
  obtain spent | ⟨same, task, rest, tasks, was, now, lower⟩ := lowers
  · exact Prod.Lex.left _ _ spent
  · change Prod.Lex _ _ (budget after, _) (budget before, _)
    rw [same]
    exact Prod.Lex.right _ (cutExpand_ranks was now lower)

end Agenda
