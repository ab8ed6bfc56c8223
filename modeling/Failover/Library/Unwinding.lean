import Failover.Library.Machine

/-!
# Runs without some of their inputs

Two states of a machine look alike to an observer. If the kept inputs take alike states
to alike states with the same outputs, and the others change nothing that the observer
sees, then a run and what is kept of it look alike and emit the same on the kept inputs.
-/

namespace Failover.Library

set_option autoImplicit false

namespace Machine

variable {State Input Output : Type*} (machine : Machine State Input Output)
  (keep : Input → Bool)

/-- What the run emits on the kept inputs. -/
def observed (state : State) : List Input → List Output
  | [] => []
  | input :: rest =>
      (if keep input then (machine.step state input).2 else []) ++
        observed (machine.step state input).1 rest

variable {keep}

/-- The states after the runs are alike, and so are the emissions. Only the steps of the
full run have to meet the guard. -/
theorem unwinding {guard : State → Input → Prop} {alike : State → State → Prop}
    (ignores : ∀ full kept input, alike full kept → guard full input → keep input = false →
      alike (machine.step full input).1 kept)
    (agrees : ∀ full kept input, alike full kept → guard full input → keep input = true →
      alike (machine.step full input).1 (machine.step kept input).1 ∧
        (machine.step full input).2 = (machine.step kept input).2)
    {full kept : State} (initially : alike full kept) {inputs : List Input}
    (guarded : machine.AllSteps guard full inputs) :
    alike (machine.after full inputs) (machine.after kept (inputs.filter keep)) ∧
      machine.observed keep full inputs = machine.outputs kept (inputs.filter keep) := by
  induction inputs generalizing full kept with
  | nil => exact ⟨initially, rfl⟩
  | cons input rest ih =>
      cases keeps : keep input with
      | false =>
          have next := ignores full kept input initially guarded.1 keeps
          obtain ⟨states, emissions⟩ := ih next guarded.2
          rw [List.filter_cons_of_neg (by simp [keeps])]
          refine ⟨states, ?_⟩
          rw [observed, keeps, if_neg (by decide), List.nil_append]
          exact emissions
      | true =>
          obtain ⟨next, same⟩ := agrees full kept input initially guarded.1 keeps
          obtain ⟨states, emissions⟩ := ih next guarded.2
          rw [List.filter_cons_of_pos keeps]
          refine ⟨states, ?_⟩
          rw [observed, keeps, if_pos rfl, emissions, same]
          rfl

end Machine

end Failover.Library
