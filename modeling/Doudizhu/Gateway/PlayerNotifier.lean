import Doudizhu.Gateway.RoomManager

/-! # The player notifier

`PlayerNotifier` maps a player to the session that registered for the player last, under
a token of that registration.  The send function of an entry hands messages to its
session, so an entry keeps the session.  The token counter does not wrap.
-/

namespace Doudizhu.Gateway

abbrev Token : Type := Nat

/-- The number of a session, in the order of acceptance. -/
abbrev SessionId : Type := Nat

structure NotifierEntry where
  token : Token
  session : SessionId
deriving DecidableEq

structure PlayerNotifier where
  senders : UnorderedMap PlayerId NotifierEntry := ∅
  nextToken : Token := 1

namespace PlayerNotifier

def registerPlayer (notifier : PlayerNotifier) (player : PlayerId) (session : SessionId) :
    Token × PlayerNotifier :=
  (notifier.nextToken,
    { senders := notifier.senders.insert player { token := notifier.nextToken, session }
      nextToken := notifier.nextToken + 1 })

def isCurrent (notifier : PlayerNotifier) (player : PlayerId) (token : Token) : Bool :=
  match notifier.senders.lookup player with
  | none => false
  | some entry => entry.token == token

def unregisterPlayer (notifier : PlayerNotifier) (player : PlayerId) (token : Token) :
    PlayerNotifier :=
  if notifier.isCurrent player token then
    { notifier with senders := notifier.senders.erase player }
  else notifier

variable {notifier : PlayerNotifier} {player other : PlayerId} {token : Token} {session : SessionId}

theorem isCurrent_iff : notifier.isCurrent player token ↔
    ∃ entry, notifier.senders.lookup player = some entry ∧ entry.token = token := by
  unfold isCurrent
  cases notifier.senders.lookup player <;> simp

theorem find_register :
    (notifier.registerPlayer player session).2.senders.lookup other =
      if other = player then some { token := notifier.nextToken, session }
      else notifier.senders.lookup other :=
  UnorderedMap.find_insert ..

/-- A stale token unregisters nothing. -/
theorem unregister_stale (stale : ¬ notifier.isCurrent player token) :
    notifier.unregisterPlayer player token = notifier := if_neg stale

/-- What is left after `unregisterPlayer` was there before, and has another token. -/
theorem find_unregister {entry : NotifierEntry} :
    (notifier.unregisterPlayer player token).senders.lookup other = some entry ↔
      notifier.senders.lookup other = some entry ∧ ¬ (other = player ∧ entry.token = token) := by
  by_cases current : notifier.isCurrent player token
  · obtain ⟨own, found, same⟩ := isCurrent_iff.mp current
    rw [unregisterPlayer, if_pos current, UnorderedMap.find_erase]
    by_cases here : other = player
    · subst here
      rw [if_pos rfl, found]
      constructor
      · nofun
      · rintro ⟨⟨⟩, differ⟩
        exact absurd ⟨rfl, same⟩ differ
    · simp [here]
  · rw [unregister_stale current]
    refine ⟨fun found => ⟨found, ?_⟩, And.left⟩
    rintro ⟨rfl, rfl⟩
    exact current (isCurrent_iff.mpr ⟨entry, found, rfl⟩)

@[simp] theorem unregister_nextToken :
    (notifier.unregisterPlayer player token).nextToken = notifier.nextToken := by
  unfold unregisterPlayer
  split <;> rfl

end PlayerNotifier

end Doudizhu.Gateway
