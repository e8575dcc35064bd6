import Mathlib.Data.List.Induction

/-! Receivers of messages that may arrive late, twice or in any order. A receiver remembers
the identifiers that it has seen and applies only messages with a new one.
-/

namespace Library

/-- The identifiers seen so far and what the applied messages have made. -/
structure Inbox (Id State : Type) where
  seen : List Id
  state : State

namespace Inbox

variable {Id State Message : Type} [DecidableEq Id]
variable (ident : Message → Id) (apply : State → Message → State)

/-- A message with a new identifier is applied and remembered. -/
def receive (inbox : Inbox Id State) (message : Message) : Inbox Id State :=
  if ident message ∈ inbox.seen then inbox
  else ⟨inbox.seen ++ [ident message], apply inbox.state message⟩

def receiveAll (inbox : Inbox Id State) (messages : List Message) : Inbox Id State :=
  messages.foldl (receive ident apply) inbox

variable {ident apply} {inbox : Inbox Id State} {messages : List Message}

theorem receive_seen (message : Message) (seen : ident message ∈ inbox.seen)
    : inbox.receive ident apply message = inbox :=
  if_pos seen

theorem receive_fresh (message : Message) (fresh : ident message ∉ inbox.seen)
    : inbox.receive ident apply message
      = ⟨inbox.seen ++ [ident message], apply inbox.state message⟩ :=
  if_neg fresh

theorem receiveAll_cons (inbox : Inbox Id State) (message : Message)
    (messages : List Message)
    : inbox.receiveAll ident apply (message :: messages)
      = (inbox.receive ident apply message).receiveAll ident apply messages :=
  rfl

theorem receiveAll_concat (inbox : Inbox Id State) (messages : List Message)
    (message : Message)
    : inbox.receiveAll ident apply (messages ++ [message])
      = (inbox.receiveAll ident apply messages).receive ident apply message := by
  simp only [receiveAll, List.foldl_append, List.foldl_cons, List.foldl_nil]

/-- What a receiver has seen is what it had seen before and what has arrived since, by
induction from the last arrival.
-/
theorem mem_seen_receiveAll {id : Id}
    : id ∈ (inbox.receiveAll ident apply messages).seen
      ↔ id ∈ inbox.seen ∨ ∃ message ∈ messages, ident message = id := by
  induction messages using List.reverseRecOn with
  | nil => simp [receiveAll]
  | append_singleton messages last ih =>
      rw [receiveAll_concat]
      by_cases seen : ident last ∈ (inbox.receiveAll ident apply messages).seen
      · rw [receive_seen last seen, ih]
        constructor
        · rintro (old | ⟨message, member, same⟩)
          · exact .inl old
          · exact .inr ⟨message, List.mem_append_left _ member, same⟩
        · rintro (old | ⟨message, member, same⟩)
          · exact .inl old
          · rcases List.mem_append.mp member with earlier | final
            · exact .inr ⟨message, earlier, same⟩
            · rw [List.mem_singleton.mp final] at same
              exact ih.mp (same ▸ seen)
      · rw [receive_fresh last seen]
        simp only [List.mem_append, ih, List.mem_singleton]
        constructor
        · rintro ((old | ⟨message, member, same⟩) | rfl)
          · exact .inl old
          · exact .inr ⟨message, .inl member, same⟩
          · exact .inr ⟨last, .inr rfl, rfl⟩
        · rintro (old | ⟨message, member | rfl, same⟩)
          · exact .inl (.inl old)
          · exact .inl (.inr ⟨message, member, same⟩)
          · exact .inr same.symm

/-- A property of the state that every arriving message keeps holds after all of them, by
induction from the last arrival.
-/
theorem receiveAll_invariant (property : State → Prop)
    (kept : ∀ message ∈ messages, ∀ state, property state → property (apply state message))
    (initial : property inbox.state)
    : property (inbox.receiveAll ident apply messages).state := by
  induction messages using List.reverseRecOn with
  | nil => exact initial
  | append_singleton messages last ih =>
      have earlier := ih (fun message member => kept message (List.mem_append_left _ member))
      rw [receiveAll_concat]
      by_cases seen : ident last ∈ (inbox.receiveAll ident apply messages).seen
      · rwa [receive_seen last seen]
      · rw [receive_fresh last seen]
        exact kept last (by simp) _ earlier

theorem receiveAll_reaches (invariant goal : State → Prop)
    (reach : ∀ message ∈ messages, ∀ state, invariant state → goal (apply state message))
    (stays : ∀ state, goal state → invariant state) (initial : invariant inbox.state)
    (arrives : ∃ message ∈ messages, ident message ∉ inbox.seen)
    : goal (inbox.receiveAll ident apply messages).state := by
  induction messages using List.reverseRecOn with
  | nil => simp at arrives
  | append_singleton messages last ih =>
      have earlier := fun message member =>
        reach message (List.mem_append_left _ member)
      rw [receiveAll_concat]
      by_cases seen : ident last ∈ (inbox.receiveAll ident apply messages).seen
      · rw [receive_seen last seen]
        refine ih earlier ?_
        obtain ⟨message, member, fresh⟩ := arrives
        rcases List.mem_append.mp member with before | final
        · exact ⟨message, before, fresh⟩
        · rw [List.mem_singleton.mp final] at fresh
          rcases mem_seen_receiveAll.mp seen with old | ⟨first, before, same⟩
          · exact absurd old fresh
          · exact ⟨first, before, same ▸ fresh⟩
      · rw [receive_fresh last seen]
        refine reach last (by simp) _ ?_
        exact receiveAll_invariant invariant
          (fun message member state holds => stays _ (earlier message member state holds))
          initial

theorem receiveAll_last {message : Message} (fresh : ident message ∉ inbox.seen)
    (first : ∀ other ∈ messages, ident other ≠ ident message)
    : (inbox.receiveAll ident apply (messages ++ [message])).state
      = apply (inbox.receiveAll ident apply messages).state message := by
  have unseen : ident message ∉ (inbox.receiveAll ident apply messages).seen := by
    intro seen
    rcases mem_seen_receiveAll.mp seen with old | ⟨other, member, same⟩
    · exact fresh old
    · exact first other member same
  rw [receiveAll_concat, receive_fresh message unseen]

end Inbox

end Library
