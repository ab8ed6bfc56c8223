import Mathlib.Data.List.Basic
import Mathlib.Data.List.Induction

/-!
# Runs of a deterministic machine with outputs

A machine reads one input at a time, moves to its next state and emits a list of
outputs. Every rule below turns a fact about one step into a fact about whole
runs, so a client proves a step lemma and cites a rule for its induction.
-/

namespace Failover.Library

set_option autoImplicit false

structure Machine (State Input Output : Type*) where
  step : State → Input → State × List Output

variable {State Input Output : Type*}

namespace Machine

def run (machine : Machine State Input Output) (state : State) :
    List Input → State × List Output
  | [] => (state, [])
  | input :: rest =>
      let (next, emitted) := machine.step state input
      let (last, later) := machine.run next rest
      (last, emitted ++ later)

def after (machine : Machine State Input Output) (state : State)
    (inputs : List Input) : State :=
  (machine.run state inputs).1

def outputs (machine : Machine State Input Output) (state : State)
    (inputs : List Input) : List Output :=
  (machine.run state inputs).2

def Reachable (machine : Machine State Input Output) (initial state : State) : Prop :=
  ∃ inputs, machine.after initial inputs = state

/-- The step predicate holds at every step of the run, each time of the state
the step starts from and the input it reads. -/
def AllSteps (machine : Machine State Input Output) (guard : State → Input → Prop)
    (state : State) : List Input → Prop
  | [] => True
  | input :: rest =>
      guard state input ∧ machine.AllSteps guard (machine.step state input).1 rest

/-- The state predicate holds of every state of the run, its first and its last
included. -/
def AllStates (machine : Machine State Input Output) (good : State → Prop)
    (state : State) : List Input → Prop
  | [] => good state
  | input :: rest =>
      good state ∧ machine.AllStates good (machine.step state input).1 rest

variable (machine : Machine State Input Output)

instance decidableAllSteps (guard : State → Input → Prop)
    [∀ state input, Decidable (guard state input)] (state : State) :
    (inputs : List Input) → Decidable (machine.AllSteps guard state inputs)
  | [] => isTrue trivial
  | input :: rest =>
      have := decidableAllSteps guard (machine.step state input).1 rest
      inferInstanceAs (Decidable (_ ∧ _))

@[simp] theorem run_nil (state : State) : machine.run state [] = (state, []) := rfl

theorem run_cons (state : State) (input : Input) (rest : List Input) :
    machine.run state (input :: rest) =
      ((machine.run (machine.step state input).1 rest).1,
        (machine.step state input).2 ++
          (machine.run (machine.step state input).1 rest).2) := rfl

@[simp] theorem after_nil (state : State) : machine.after state [] = state := rfl

@[simp] theorem after_cons (state : State) (input : Input) (rest : List Input) :
    machine.after state (input :: rest) =
      machine.after (machine.step state input).1 rest := rfl

theorem after_append (state : State) (first second : List Input) :
    machine.after state (first ++ second) =
      machine.after (machine.after state first) second := by
  induction first generalizing state with
  | nil => rfl
  | cons input rest ih => exact ih (machine.step state input).1

theorem reachable_after (initial : State) (inputs : List Input) :
    machine.Reachable initial (machine.after initial inputs) :=
  ⟨inputs, rfl⟩

theorem after_invariant (invariant : State → Prop)
    (preserved : ∀ state input, invariant state → invariant (machine.step state input).1)
    {state : State} (initially : invariant state) (inputs : List Input) :
    invariant (machine.after state inputs) := by
  induction inputs generalizing state with
  | nil => exact initially
  | cons input rest ih => exact ih (preserved state input initially)

theorem reachable_invariant (invariant : State → Prop)
    (preserved : ∀ state input, invariant state → invariant (machine.step state input).1)
    {initial state : State} (initially : invariant initial)
    (reachable : machine.Reachable initial state) : invariant state := by
  obtain ⟨inputs, rfl⟩ := reachable
  exact machine.after_invariant invariant preserved initially inputs

theorem run_safe (invariant : State → Prop) {allowed : Input → Prop} {safe : Output → Prop}
    (step : ∀ state input, invariant state → allowed input →
      invariant (machine.step state input).1 ∧ ∀ output ∈ (machine.step state input).2, safe output)
    {state : State} (initially : invariant state) {inputs : List Input}
    (all : ∀ input ∈ inputs, allowed input) :
    invariant (machine.after state inputs) ∧
      ∀ output ∈ machine.outputs state inputs, safe output := by
  induction inputs generalizing state with
  | nil => exact ⟨initially, fun output member => nomatch member⟩
  | cons input rest ih =>
      rcases step state input initially (all input List.mem_cons_self) with ⟨next, first⟩
      rcases ih next (fun later member => all later (List.mem_cons_of_mem input member)) with
        ⟨last, later⟩
      refine ⟨last, fun output member => ?_⟩
      rcases List.mem_append.mp member with now | after
      · exact first output now
      · exact later output after

theorem all_steps_append {guard : State → Input → Prop} (state : State)
    (first second : List Input) :
    machine.AllSteps guard state (first ++ second) ↔
      machine.AllSteps guard state first ∧
        machine.AllSteps guard (machine.after state first) second := by
  induction first generalizing state with
  | nil => simp [AllSteps]
  | cons input rest ih =>
      simp only [List.cons_append, AllSteps, after_cons, ih, and_assoc]

theorem all_steps_and_inputs {guard : State → Input → Prop} {side : Input → Prop} {state : State}
    {inputs : List Input} (guarded : machine.AllSteps guard state inputs)
    (sides : ∀ input ∈ inputs, side input) :
    machine.AllSteps (fun s input => guard s input ∧ side input) state inputs := by
  induction inputs generalizing state with
  | nil => trivial
  | cons input rest ih =>
      exact ⟨⟨guarded.1, sides input List.mem_cons_self⟩,
        ih guarded.2 (fun later member => sides later (List.mem_cons_of_mem input member))⟩

/-- Each step may be judged in view of the steps before it. -/
theorem all_steps_of_splits {guard : State → Input → Prop} {state : State} {inputs : List Input}
    (each : ∀ before input rest, inputs = before ++ input :: rest →
      machine.AllSteps guard state before → guard (machine.after state before) input) :
    machine.AllSteps guard state inputs := by
  induction inputs using List.reverseRecOn with
  | nil => trivial
  | append_singleton before input ih =>
      have earlier : machine.AllSteps guard state before := by
        apply ih
        intro first middle rest split
        exact each first middle (rest ++ [input]) (by simp [split])
      rw [all_steps_append]
      exact ⟨earlier, each before input [] rfl earlier, trivial⟩

/-- An invariant that the guarded steps preserve holds after every run whose
steps all meet the guard. -/
theorem guarded_invariant {guard : State → Input → Prop} (invariant : State → Prop)
    (preserved : ∀ state input, invariant state → guard state input →
      invariant (machine.step state input).1)
    {state : State} (initially : invariant state) {inputs : List Input}
    (guarded : machine.AllSteps guard state inputs) :
    invariant (machine.after state inputs) := by
  induction inputs generalizing state with
  | nil => exact initially
  | cons input rest ih =>
      exact ih (preserved state input initially guarded.1) guarded.2

theorem all_steps_mono {guard weaker : State → Input → Prop} (invariant : State → Prop)
    (preserved : ∀ state input, invariant state → guard state input →
      invariant (machine.step state input).1)
    (implied : ∀ state input, invariant state → guard state input → weaker state input)
    {state : State} (initially : invariant state) {inputs : List Input}
    (guarded : machine.AllSteps guard state inputs) :
    machine.AllSteps weaker state inputs := by
  induction inputs generalizing state with
  | nil => trivial
  | cons input rest ih =>
      exact ⟨implied state input initially guarded.1,
        ih (preserved state input initially guarded.1) guarded.2⟩

theorem all_steps_of_invariant {guard : State → Input → Prop} (invariant : State → Prop)
    (preserved : ∀ state input, invariant state → invariant (machine.step state input).1)
    (implied : ∀ state input, invariant state → guard state input)
    {state : State} (initially : invariant state) (inputs : List Input) :
    machine.AllSteps guard state inputs := by
  induction inputs generalizing state with
  | nil => trivial
  | cons input rest ih =>
      exact ⟨implied state input initially, ih (preserved state input initially)⟩

theorem all_steps_congr {left right : State → Input → Prop} (invariant : State → Prop)
    (agree : ∀ state input, invariant state → (left state input ↔ right state input))
    (preserved : ∀ state input, invariant state → right state input →
      invariant (machine.step state input).1)
    {state : State} (initially : invariant state) (inputs : List Input) :
    machine.AllSteps left state inputs ↔ machine.AllSteps right state inputs := by
  constructor
  · exact machine.all_steps_mono invariant
      (fun s input holds met => preserved s input holds ((agree s input holds).mp met))
      (fun s input holds met => (agree s input holds).mp met) initially
  · exact machine.all_steps_mono invariant preserved
      (fun s input holds met => (agree s input holds).mpr met) initially

theorem all_states_first {good : State → Prop} {state : State} {inputs : List Input}
    (always : machine.AllStates good state inputs) : good state := by
  cases inputs with
  | nil => exact always
  | cons input rest => exact always.1

theorem all_states_last {good : State → Prop} {state : State} {inputs : List Input}
    (always : machine.AllStates good state inputs) : good (machine.after state inputs) := by
  induction inputs generalizing state with
  | nil => exact always
  | cons input rest ih => exact ih always.2

theorem all_states_invariant {good : State → Prop} (invariant : State → Prop)
    (preserved : ∀ state input, good state → invariant state →
      invariant (machine.step state input).1)
    {state : State} (initially : invariant state) {inputs : List Input}
    (always : machine.AllStates good state inputs) :
    invariant (machine.after state inputs) := by
  induction inputs generalizing state with
  | nil => exact initially
  | cons input rest ih => exact ih (preserved state input always.1 initially) always.2

/-- When a step from a good state is good exactly if it meets the guard, a run
from a good state stays good exactly if all its steps meet the guard. -/
theorem all_states_iff_all_steps {good invariant : State → Prop}
    {guard : State → Input → Prop}
    (preserved : ∀ state input, invariant state → invariant (machine.step state input).1)
    (decides : ∀ state input, invariant state → good state →
      (good (machine.step state input).1 ↔ guard state input))
    {state : State} (initially : invariant state) (start : good state)
    (inputs : List Input) :
    machine.AllStates good state inputs ↔ machine.AllSteps guard state inputs := by
  induction inputs generalizing state with
  | nil => simp [AllStates, AllSteps, start]
  | cons input rest ih =>
      simp only [AllStates, AllSteps, start, true_and]
      constructor
      · intro always
        have next := machine.all_states_first always
        exact ⟨(decides state input initially start).mp next,
          (ih (preserved state input initially) next).mp always⟩
      · intro guarded
        have next := (decides state input initially start).mpr guarded.1
        exact (ih (preserved state input initially) next).mpr guarded.2

/-- Inputs that neither move the machine nor make it emit can be deleted from
the run. Whether an input is idle is decided in the state it arrives in. -/
theorem run_filter (keep : Input → Bool) {state : State} {inputs : List Input}
    (idle : machine.AllSteps
      (fun s input => keep input = false → machine.step s input = (s, [])) state inputs) :
    machine.run state (inputs.filter keep) = machine.run state inputs := by
  induction inputs generalizing state with
  | nil => rfl
  | cons input rest ih =>
      cases kept : keep input with
      | true =>
          rw [List.filter_cons_of_pos kept, run_cons, run_cons, ih idle.2]
      | false =>
          have still := idle.1 kept
          have later := idle.2
          rw [still] at later
          rw [List.filter_cons_of_neg (by simp [kept]), run_cons, still, ih later]
          rfl

theorem run_filter_map_congr {Arrival : Type*} {read other : Arrival → Option Input}
    (alike : ∀ arrival, Option.Rel (fun left right => ∀ s, machine.step s left =
      machine.step s right) (read arrival) (other arrival))
    (state : State) (arrivals : List Arrival) :
    machine.run state (arrivals.filterMap read) = machine.run state (arrivals.filterMap other) := by
  induction arrivals generalizing state with
  | nil => rfl
  | cons arrival rest ih =>
      have same := alike arrival
      rw [List.filterMap_cons, List.filterMap_cons]
      generalize read arrival = left at same ⊢
      generalize other arrival = right at same ⊢
      cases same with
      | none => exact ih state
      | some steps => rw [run_cons, run_cons, steps state, ih]

theorem all_steps_iff_of_guarded {guard left right : State → Input → Prop}
    (invariant : State → Prop)
    (preserved : ∀ state input, invariant state → guard state input →
      invariant (machine.step state input).1)
    (agree : ∀ state input, invariant state → guard state input →
      (left state input ↔ right state input))
    {state : State} (initially : invariant state) {inputs : List Input}
    (guarded : machine.AllSteps guard state inputs) :
    machine.AllSteps left state inputs ↔ machine.AllSteps right state inputs := by
  induction inputs generalizing state with
  | nil => exact Iff.rfl
  | cons input rest ih =>
      apply and_congr
      · exact agree state input initially guarded.1
      · exact ih (preserved state input initially guarded.1) guarded.2

/-- The machine next to a record of its run that it never reads. -/
def withRecord {Record : Type*} (note : State → Input → Record → Record) :
    Machine (State × Record) Input Output where
  step pair input :=
    (((machine.step pair.1 input).1, note pair.1 input pair.2), (machine.step pair.1 input).2)

/-- The record of what the outputs add up to. -/
def withMemory {Memory : Type*} (absorb : Memory → Output → Memory) :
    Machine (State × Memory) Input Output :=
  machine.withRecord fun state input memory => (machine.step state input).2.foldl absorb memory

theorem with_record_after {Record : Type*} (note : State → Input → Record → Record)
    (state : State) (record : Record) (inputs : List Input) :
    ((machine.withRecord note).after (state, record) inputs).1 = machine.after state inputs := by
  induction inputs generalizing state record with
  | nil => rfl
  | cons input rest ih => exact ih (machine.step state input).1 _

theorem with_record_reachable {Record : Type*} {note : State → Input → Record → Record}
    {initial : State} {record : Record} {pair : State × Record}
    (reachable : (machine.withRecord note).Reachable (initial, record) pair) :
    machine.Reachable initial pair.1 := by
  rcases reachable with ⟨inputs, rfl⟩
  exact ⟨inputs, (machine.with_record_after note initial record inputs).symm⟩

theorem with_memory_reachable {Memory : Type*} {absorb : Memory → Output → Memory}
    {initial : State} {memory : Memory} {pair : State × Memory}
    (reachable : (machine.withMemory absorb).Reachable (initial, memory) pair) :
    machine.Reachable initial pair.1 :=
  machine.with_record_reachable reachable

theorem with_record_all_steps {Record : Type*} (note : State → Input → Record → Record)
    {guard : State → Input → Prop} {state : State} (record : Record) {inputs : List Input}
    (guarded : machine.AllSteps guard state inputs) :
    (machine.withRecord note).AllSteps (fun pair input => guard pair.1 input) (state, record)
      inputs := by
  induction inputs generalizing state record with
  | nil => trivial
  | cons input rest ih => exact ⟨guarded.1, ih _ guarded.2⟩

end Machine

end Failover.Library
