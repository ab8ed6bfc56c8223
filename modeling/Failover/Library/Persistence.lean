import Failover.Library.Machine
import Mathlib.Data.List.Induction

/-!
# What a run gains and loses

A property that holds at the end of a run held all along exactly when every step
that gained it was followed by one that lost it again.
-/

namespace Failover.Library

set_option autoImplicit false

variable {State Input Output : Type*} (machine : Machine State Input Output)

namespace Machine

theorem after_snoc (state : State) (inputs : List Input) (input : Input) :
    machine.after state (inputs ++ [input]) =
      (machine.step (machine.after state inputs) input).1 := by
  rw [after_append, after_cons, after_nil]

theorem holds_unless_lost (holds : State → Prop) {state : State} (now : holds state)
    {inputs : List Input}
    (kept : ∀ before input rest, inputs = before ++ input :: rest →
      holds (machine.after state before) → holds (machine.after state (before ++ [input]))) :
    holds (machine.after state inputs) := by
  induction inputs using List.reverseRecOn with
  | nil => exact now
  | append_singleton front last ih =>
      apply kept front last [] rfl
      apply ih
      intro before input rest split
      exact kept before input (rest ++ [last]) (by simp [split])

theorem exists_last_gain (holds : State → Prop) {state : State} (absent : ¬ holds state)
    {inputs : List Input} (atEnd : holds (machine.after state inputs)) :
    ∃ before input rest, inputs = before ++ input :: rest ∧
      ¬ holds (machine.after state before) ∧
        ∀ middle later, rest = middle ++ later →
          holds (machine.after state (before ++ input :: middle)) := by
  induction inputs using List.reverseRecOn with
  | nil => exact absurd atEnd absent
  | append_singleton front last ih =>
      by_cases held : holds (machine.after state front)
      · rcases ih held with ⟨before, input, rest, split, missing, always⟩
        refine ⟨before, input, rest ++ [last], by simp [split], missing, ?_⟩
        intro middle later shape
        rcases List.eq_nil_or_concat later with rfl | ⟨init, final, rfl⟩
        · rw [List.append_nil] at shape
          rw [← shape, ← List.cons_append, ← List.append_assoc, ← split]
          exact atEnd
        · rw [List.concat_eq_append, ← List.append_assoc] at shape
          exact always middle init (List.append_inj' shape rfl).1
      · refine ⟨front, last, [], rfl, held, ?_⟩
        intro middle later shape
        have empty := (List.append_eq_nil_iff.mp shape.symm).1
        rw [empty]
        exact atEnd

theorem held_throughout_iff (holds : State → Prop) (state : State) (inputs : List Input) :
    (holds (machine.after state inputs) → ∀ before rest, inputs = before ++ rest →
        holds (machine.after state before)) ↔
      ∀ before input rest, inputs = before ++ input :: rest →
        ¬ holds (machine.after state before) → holds (machine.after state (before ++ [input])) →
          ∃ middle lost later, rest = middle ++ lost :: later ∧
            holds (machine.after state (before ++ input :: middle)) ∧
              ¬ holds (machine.after state (before ++ input :: (middle ++ [lost]))) := by
  constructor
  · intro throughout before input rest split missing gained
    by_contra never
    push Not at never
    apply missing
    apply throughout _ before (input :: rest) split
    rw [split, ← List.singleton_append, ← List.append_assoc, after_append]
    apply machine.holds_unless_lost holds gained
    intro middle lost later shape held
    have kept := never middle lost later shape
    simpa [after_append] using kept (by simpa [after_append] using held)
  · intro lost atEnd before rest split
    by_contra missing
    rw [split, after_append] at atEnd
    rcases machine.exists_last_gain holds missing atEnd with
      ⟨start, input, tail, shape, absent, always⟩
    rw [← after_append] at absent
    have gained := always [] tail rfl
    rw [← after_append, ← List.append_assoc] at gained
    rcases lost (before ++ start) input tail (by simp [split, shape]) absent gained with
      ⟨middle, last, later, parts, _, gone⟩
    apply gone
    have kept := always (middle ++ [last]) later (by simp [parts])
    rw [← after_append, ← List.append_assoc] at kept
    exact kept

end Machine

end Failover.Library
