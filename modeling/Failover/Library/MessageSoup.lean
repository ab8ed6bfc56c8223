import Failover.Library.Machine
import Mathlib.Logic.Function.Basic

/-!
# Parties that exchange messages over an unreliable medium

The medium remembers every message ever sent. A delivery picks any of them for
any party, so loss, duplication, delay, reordering and loop-back to the sender
are all runs of the same machine.
-/

namespace Failover.Library

set_option autoImplicit false

/-- The code that every party runs. An action that delivers a message names it. -/
structure Party (State Action Message : Type*) where
  react : State → Action → State × List Message
  received : Action → Option Message

structure Soup (Name State Message : Type*) where
  locals : Name → State
  sent : List Message

namespace Soup

variable {Name State Action Message : Type*} [DecidableEq Name]

def machine (party : Party State Action Message) :
    Machine (Soup Name State Message) (Name × Action) Message where
  step soup move :=
    let (next, emitted) := party.react (soup.locals move.1) move.2
    ({ locals := Function.update soup.locals move.1 next
       sent := soup.sent ++ emitted }, emitted)

/-- A move is possible when the environment allows it and the message it
delivers, if any, was sent before. -/
def Enabled (party : Party State Action Message) (allowed : Name → Action → Prop)
    (soup : Soup Name State Message) (move : Name × Action) : Prop :=
  allowed move.1 move.2 ∧ ∀ message, party.received move.2 = some message → message ∈ soup.sent

instance [DecidableEq Message] (party : Party State Action Message)
    (allowed : Name → Action → Prop) [∀ name action, Decidable (allowed name action)]
    (soup : Soup Name State Message) (move : Name × Action) :
    Decidable (Enabled party allowed soup move) :=
  inferInstanceAs (Decidable (allowed move.1 move.2 ∧
    ∀ message ∈ party.received move.2, message ∈ soup.sent))

variable (party : Party State Action Message)

@[simp] theorem step_locals_self (soup : Soup Name State Message) (name : Name)
    (action : Action) :
    ((machine party).step soup (name, action)).1.locals name =
      (party.react (soup.locals name) action).1 := by
  simp [machine]

theorem step_locals_other (soup : Soup Name State Message) {name other : Name}
    (different : other ≠ name) (action : Action) :
    ((machine party).step soup (name, action)).1.locals other = soup.locals other := by
  simp [machine, different]

/-- The actions of one party. -/
def own (name : Name) (moves : List (Name × Action)) : List Action :=
  moves.filterMap fun move => if move.1 = name then some move.2 else none

theorem locals_after {Output : Type*} {alone : Machine State Action Output}
    (reacts : ∀ state action, (party.react state action).1 = (alone.step state action).1)
    (soup : Soup Name State Message) (moves : List (Name × Action)) (name : Name) :
    ((machine party).after soup moves).locals name =
      alone.after (soup.locals name) (own name moves) := by
  induction moves generalizing soup with
  | nil => rfl
  | cons move rest ih =>
      obtain ⟨mover, action⟩ := move
      rw [Machine.after_cons, ih]
      by_cases same : mover = name
      · subst same
        rw [step_locals_self, reacts]
        simp [own]
      · rw [step_locals_other party soup (Ne.symm same)]
        simp [own, same]

/-- Each party keeps its own invariant, and every message ever sent is lawful. -/
structure Lawful (good : Name → State → Prop) (lawful : Message → Prop)
    (soup : Soup Name State Message) : Prop where
  parties : ∀ name, good name (soup.locals name)
  messages : ∀ message ∈ soup.sent, lawful message

variable {party}

theorem lawful_step {good : Name → State → Prop} {lawful : Message → Prop}
    {allowed : Name → Action → Prop}
    (reacts : ∀ name state action, good name state → allowed name action →
      (∀ message, party.received action = some message → lawful message) →
      good name (party.react state action).1 ∧
        ∀ message ∈ (party.react state action).2, lawful message)
    (soup : Soup Name State Message) (move : Name × Action)
    (holds : Lawful good lawful soup) (enabled : Enabled party allowed soup move) :
    Lawful good lawful ((machine party).step soup move).1 := by
  obtain ⟨mover, action⟩ := move
  have received : ∀ message, party.received action = some message → lawful message := by
    intro message delivered
    exact holds.messages message (enabled.2 message delivered)
  obtain ⟨moved, emitted⟩ := reacts mover (soup.locals mover) action (holds.parties mover)
    enabled.1 received
  constructor
  · intro name
    by_cases same : name = mover
    · subst same
      rw [step_locals_self]
      exact moved
    · rw [step_locals_other party soup same]
      exact holds.parties name
  · intro message member
    rcases List.mem_append.mp member with old | new
    · exact holds.messages message old
    · exact emitted message new

/-- What one reaction preserves holds after every run of enabled moves. -/
theorem lawful_after {good : Name → State → Prop} {lawful : Message → Prop}
    {allowed : Name → Action → Prop}
    (reacts : ∀ name state action, good name state → allowed name action →
      (∀ message, party.received action = some message → lawful message) →
      good name (party.react state action).1 ∧
        ∀ message ∈ (party.react state action).2, lawful message)
    {soup : Soup Name State Message} (initially : Lawful good lawful soup)
    {moves : List (Name × Action)}
    (enabled : (machine party).AllSteps (Enabled party allowed) soup moves) :
    Lawful good lawful ((machine party).after soup moves) :=
  (machine party).guarded_invariant (Lawful good lawful) (lawful_step reacts) initially enabled

end Soup

end Failover.Library
