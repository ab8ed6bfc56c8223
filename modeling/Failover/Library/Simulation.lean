import Failover.Library.Machine

/-!
# Runs seen by a more abstract machine

Each step of a concrete machine is one step of an abstract machine or none. What the
abstract machine sees of a run is a run of its own, and a relation that every step
keeps holds between the ends of both.
-/

namespace Failover.Library

set_option autoImplicit false

namespace Machine

variable {State Input Output Abstract Action Emission : Type*}
  (machine : Machine State Input Output) (abstract : Machine Abstract Action Emission)
  (sees : State → Input → Option Action)

/-- The steps of the run that the abstract machine takes part in. -/
def seen (state : State) : List Input → List Action
  | [] => []
  | input :: rest => (sees state input).toList ++ seen (machine.step state input).1 rest

/-- The same for a run that is cut into parts. -/
def seenParts (state : State) : List (List Input) → List (List Action)
  | [] => []
  | inputs :: rest => machine.seen sees state inputs :: seenParts (machine.after state inputs) rest

variable {machine abstract sees}

theorem seen_append (state : State) (first second : List Input) :
    machine.seen sees state (first ++ second) =
      machine.seen sees state first ++ machine.seen sees (machine.after state first) second := by
  induction first generalizing state with
  | nil => rfl
  | cons input rest ih => simp only [List.cons_append, seen, ih, List.append_assoc, after_cons]

theorem seen_parts_flatten (state : State) (parts : List (List Input)) :
    (machine.seenParts sees state parts).flatten = machine.seen sees state parts.flatten := by
  induction parts generalizing state with
  | nil => rfl
  | cons inputs rest ih => rw [seenParts, List.flatten_cons, ih, List.flatten_cons, seen_append]

theorem seen_parts_length (state : State) (parts : List (List Input)) :
    (machine.seenParts sees state parts).length = parts.length := by
  induction parts generalizing state with
  | nil => rfl
  | cons inputs rest ih => rw [seenParts, List.length_cons, ih, List.length_cons]

/-- A relation that every step keeps, in whichever machine it is taken, holds after the
run and what is seen of it. -/
theorem seen_related {related : Abstract → State → Prop} (invariant : State → Prop)
    (preserved : ∀ state input, invariant state → invariant (machine.step state input).1)
    (keeps : ∀ view state input, invariant state → related view state →
      related (abstract.after view (sees state input).toList) (machine.step state input).1)
    {view : Abstract} {state : State} (initially : invariant state) (start : related view state)
    (inputs : List Input) :
    related (abstract.after view (machine.seen sees state inputs))
      (machine.after state inputs) := by
  induction inputs generalizing view state with
  | nil => exact start
  | cons input rest ih =>
      rw [seen, after_append, after_cons]
      exact ih (preserved state input initially) (keeps view state input initially start)

end Machine

end Failover.Library
