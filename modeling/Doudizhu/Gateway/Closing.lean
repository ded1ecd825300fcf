import Doudizhu.Gateway.Agreement

/-! # Sessions that close

A session that was registered when its `close` began is so until its `close` ends, whatever
is done in between: so it is the own entry that it gives up.
-/

namespace Doudizhu.Gateway

open Game

variable {ρ : Type}

/-- The session whose `close` the call ends. -/
def Task.finishes : Task → Option SessionId
  | .finishClose id => some id
  | _ => none

/-- A session whose `close` has not ended holds the entry of its player until then, and no
    `close` has to end twice. -/
structure ClosingInv (gateway : GatewayProcess ρ) : Prop where
  once : (gateway.agenda.filterMap Task.finishes).Nodup
  holds : ∀ id, .finishClose id ∈ gateway.agenda →
    ∃ face, gateway.face id = some face ∧ face.closed ∧ face.current gateway.notifier

theorem mem_finishes {agenda : List Task} {id : SessionId} :
    id ∈ agenda.filterMap Task.finishes ↔ .finishClose id ∈ agenda := by
  rw [List.mem_filterMap]
  constructor
  · intro ⟨task, member, finishes⟩
    cases task with
    | finishClose other =>
      obtain rfl := Option.some.inj finishes
      exact member
    | _ => cases finishes
  · intro member
    exact ⟨_, member, rfl⟩

theorem finishes_cons (id : SessionId) (rest : List Task) :
    (Task.finishClose id :: rest).filterMap Task.finishes = id :: rest.filterMap Task.finishes := rfl

theorem finishes_plain {tasks : List Task} (plain : ∀ task ∈ tasks, task.plain) :
    tasks.filterMap Task.finishes = [] := by
  rw [List.filterMap_eq_nil_iff]
  intro task member
  cases task with
  | finishClose id => exact absurd member (notMem_plain plain id)
  | _ => rfl

/-- The call that was made ended no `close`. -/
theorem finishes_tail {agenda : List Task} (head : ∀ id, agenda.head? ≠ some (.finishClose id)) :
    agenda.tail.filterMap Task.finishes = agenda.filterMap Task.finishes := by
  cases agenda with
  | nil => rfl
  | cons task rest =>
    cases task with
    | finishClose id => exact absurd rfl (head id)
    | _ => rfl

theorem closingInv_start (random : ρ) : ClosingInv ({ manager := { random } } : GatewayProcess ρ) := by
  constructor <;> simp

section Closing

variable {before after : GatewayProcess ρ}

/-- Steps after which the same `close`s have still to end. -/
theorem ClosingInv.still (holds : ClosingInv before)
    (agenda : after.agenda.filterMap Task.finishes = before.agenda.filterMap Task.finishes)
    (kept : ∀ id face, before.face id = some face → face.closed → face.current before.notifier →
      ∃ face, after.face id = some face ∧ face.closed ∧ face.current after.notifier) :
    ClosingInv after where
  once := agenda ▸ holds.once
  holds id member := by
    rw [← mem_finishes, agenda, mem_finishes] at member
    obtain ⟨face, present, closed, current⟩ := holds.holds id member
    exact kept id face present closed current

/-- Steps after which no `close` has to end. -/
theorem closingInv_none (none : after.agenda.filterMap Task.finishes = []) : ClosingInv after where
  once := by simp [none]
  holds id member := by
    rw [← mem_finishes, none] at member
    cases member

/-- A session gives up its entry, and no other one loses its own. -/
theorem ClosingInv.finished {trace : List (Taken ρ)} (holds : ClosingInv before)
    (tokens : TokenInv trace before) {id : SessionId}
    (head : before.agenda.head? = some (.finishClose id))
    (notifier : after.notifier = released before.notifier (before.face id))
    (faces : ∀ other, after.face other = before.face other)
    (agenda : after.agenda = before.agenda.tail) : ClosingInv after := by
  have split : before.agenda = .finishClose id :: after.agenda := by
    rw [agenda]
    exact List.eq_cons_of_mem_head? head
  have once := holds.once
  rw [split, finishes_cons, List.nodup_cons, mem_finishes] at once
  refine ⟨once.2, ?_⟩
  intro other member
  have differ : other ≠ id := by
    intro same
    exact once.1 (same ▸ member)
  obtain ⟨face, present, closed, current⟩ :=
    holds.holds other (split ▸ List.mem_cons_of_mem _ member)
  refine ⟨face, (faces other).trans present, closed, ?_⟩
  obtain ⟨named, token, told, current⟩ := current_iff.mp current
  obtain ⟨entry, found, same⟩ := PlayerNotifier.isCurrent_iff.mp current
  refine current_iff.mpr ⟨named, token, told, PlayerNotifier.isCurrent_iff.mpr ⟨entry, ?_, same⟩⟩
  rw [notifier]
  cases own : before.face id with
  | none => exact found
  | some face =>
    obtain ⟨player, held, _⟩ := face
    cases held with
    | none => exact found
    | some held =>
      refine PlayerNotifier.find_unregister.mpr ⟨found, ?_⟩
      intro ⟨_, sameToken⟩
      -- the tokens of the two sessions are different
      rw [same] at sameToken
      subst sameToken
      exact differ (tokens.distinct other id _ _ token present own told rfl)

theorem closingInv_move {trace : List (Taken ρ)} {event : Event} {notes : List Note}
    (tokens : TokenInv trace before) (holds : ClosingInv before)
    (move : GatewayMove before event notes after) : ClosingInv after := by
  -- the faces and the notifier of before
  have unmoved : after.notifier = before.notifier → (∀ id, after.face id = before.face id) →
      ∀ id face, before.face id = some face → face.closed → face.current before.notifier →
        ∃ face, after.face id = some face ∧ face.closed ∧ face.current after.notifier := by
    intro notifier faces id face present closed current
    exact ⟨face, (faces id).trans present, closed, notifier ▸ current⟩
  -- one of the sessions closes
  have closes : ∀ {id own}, after.notifier = before.notifier →
      (∀ other, after.face other = if other = id then some { own with closed := true }
        else before.face other) → before.face id = some own →
      ∀ other face, before.face other = some face → face.closed → face.current before.notifier →
        ∃ face, after.face other = some face ∧ face.closed ∧ face.current after.notifier := by
    intro id own notifier faces present other face found closed current
    by_cases same : other = id
    · subst same
      rw [present] at found
      cases found
      exact ⟨{ own with closed := true }, by rw [faces, if_pos rfl], rfl, notifier ▸ current⟩
    · exact ⟨face, by rw [faces, if_neg same, found], closed, notifier ▸ current⟩
  cases move with
  | stalled => exact holds
  | other tasks keeps agenda plain head =>
    refine holds.still ?_ (unmoved keeps.notifier keeps.face)
    rw [agenda, List.filterMap_append, finishes_plain plain, List.nil_append, finishes_tail head]
  | opened _ _ _ _ _ agenda => exact closingInv_none (by rw [agenda]; rfl)
  | handed handing keeps _ agenda =>
    refine holds.still ?_ (unmoved keeps.notifier keeps.face)
    rw [agenda, List.filterMap_append, finishes_plain (by simp [Task.plain]), List.nil_append]
    apply finishes_tail
    intro id head
    obtain notified | ⟨read, _⟩ := handing
    · cases notified.symm.trans head
    · cases read.symm.trans head
  | acted idle _ _ _ _ _ _ agenda plain | loggedIn idle _ _ _ _ _ _ agenda plain =>
    apply closingInv_none
    rw [agenda, idle, List.tail_nil, List.append_nil, finishes_plain plain]
  | closed kind head present opened stale manager notifier faces agenda =>
    refine holds.still ?_ (closes notifier faces present)
    rw [agenda]
    apply finishes_tail
    intro other ends
    cases head.symm.trans ends
  | @closing _ id own now tasks kind head present opened current manager notifier faces agenda notes =>
    have split : before.agenda = .close id :: before.agenda.tail := List.eq_cons_of_mem_head? head
    have quiet : tasks.filterMap Task.finishes = [] := by
      rw [List.filterMap_eq_nil_iff]
      intro task member
      obtain ⟨player, state, rfl⟩ := notes task member
      rfl
    have tail : before.agenda.tail.filterMap Task.finishes = before.agenda.filterMap Task.finishes := by
      conv_rhs => rw [split]
      rfl
    have finishes : after.agenda.filterMap Task.finishes =
        id :: before.agenda.filterMap Task.finishes := by
      rw [agenda, List.filterMap_append, quiet, List.nil_append, finishes_cons, tail]
    constructor
    · rw [finishes, List.nodup_cons, mem_finishes]
      refine ⟨?_, holds.once⟩
      intro member
      obtain ⟨face, found, closed, _⟩ := holds.holds id member
      rw [present] at found
      cases found
      rw [opened] at closed
      cases closed
    · intro other member
      rw [← mem_finishes, finishes, List.mem_cons] at member
      obtain rfl | member := member
      · exact ⟨{ own with closed := true }, by rw [faces, if_pos rfl], rfl, notifier ▸ current⟩
      · obtain ⟨face, found, closed, held⟩ := holds.holds other (mem_finishes.mp member)
        exact closes notifier faces present other face found closed held
  | finished kind head manager notifier faces agenda =>
    exact holds.finished tokens head notifier faces agenda
  | cleaned tasks _ _ unfinished _ notifier faces agenda plain =>
    refine holds.still ?_ (unmoved notifier faces)
    rw [agenda, List.filterMap_append, finishes_plain plain, List.nil_append, finishes_tail unfinished]

end Closing

end Doudizhu.Gateway
