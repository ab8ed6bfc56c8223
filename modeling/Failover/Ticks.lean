import Failover.Library.Deadline
import Failover.StateTimer

/-!
# An instance and its timer task

`timer_process` looks at the timer once a second and acts when its deadline has
passed. This is what an instance does that nothing else drives.
-/

namespace Failover

open Library VirtualRouter

set_option autoImplicit false

namespace Instance

/-- The test of `timer_process` for a timer of this type succeeds. -/
def Due (env : Env) (inst : Instance) (tType : TimerType) : Prop :=
  inst.poisoned = false ∧ inst.vrouter.expired env tType

instance (env : Env) (inst : Instance) (tType : TimerType) : Decidable (inst.Due env tType) :=
  inferInstanceAs (Decidable (_ ∧ _))

def ticked (inst : Instance) (env : ℕ → Env) : ℕ → Instance
  | 0 => inst
  | count + 1 => ((inst.ticked env count).step (env count) .tick).1

variable {inst : Instance} {env : Env}

theorem due_type {tType : TimerType} (due : inst.Due env tType) :
    inst.vrouter.fsm.timer.tType = tType :=
  due.2.1

theorem due_iff {tType : TimerType} {waiting : Instant} (sound : inst.poisoned = false)
    (type : inst.vrouter.fsm.timer.tType = tType)
    (armed : inst.vrouter.fsm.timer.waitingFor = some waiting) :
    inst.Due env tType ↔ waiting < env.now := by
  constructor
  · rintro ⟨_, _, deadline, same, passed⟩
    rw [armed] at same
    cases same
    exact passed
  · exact fun passed => ⟨sound, type, waiting, armed, passed⟩

theorem step_tick_waits (masterDown : ¬ inst.Due env .masterDown) (adver : ¬ inst.Due env .adver) :
    inst.step env .tick = (inst, []) := by
  cases poisoned : inst.poisoned with
  | true => rw [step_poisoned poisoned]
  | false =>
      have waits : inst.vrouter.timerTick env = .unchanged inst.vrouter := by
        unfold timerTick
        cases type : inst.vrouter.fsm.timer.tType with
        | null => rfl
        | masterDown =>
            cases armed : inst.vrouter.fsm.timer.waitingFor with
            | none => rfl
            | some waiting =>
                exact if_neg fun passed => masterDown ⟨poisoned, type, waiting, armed, passed⟩
        | adver =>
            cases armed : inst.vrouter.fsm.timer.waitingFor with
            | none => rfl
            | some waiting =>
                exact if_neg fun passed => adver ⟨poisoned, type, waiting, armed, passed⟩
      simp only [step, poisoned, VirtualRouter.handle, waits, Handled.unchanged, Handled.panics,
        Bool.false_eq_true, if_false]
      rw [← poisoned]

theorem step_tick_advertises (due : inst.Due env .adver) :
    inst.step env .tick =
      ({ vrouter := inst.vrouter.withFsm
          (inst.vrouter.fsm.setAdvertTimer env.setAt inst.vrouter.advertInterval.toNat)
         poisoned := false },
        inst.vrouter.sendAdvertisement) := by
  rcases due with ⟨sound, type, waiting, armed, passed⟩
  simp [step, sound, VirtualRouter.handle, timerTick, type, armed, passed, Handled.done,
    Handled.panics]

/-- The tick of this number is the first that finds the MasterDown deadline passed. -/
structure FiresAt (inst : Instance) (env : ℕ → Env) (tick : ℕ) : Prop where
  due : (inst.ticked env tick).Due (env tick) .masterDown
  first : ∀ earlier < tick, ¬ (inst.ticked env earlier).Due (env earlier) .masterDown

theorem ticked_waits {env : ℕ → Env} (type : inst.vrouter.fsm.timer.tType = .masterDown)
    {count : ℕ}
    (waits : ∀ earlier < count, ¬ (inst.ticked env earlier).Due (env earlier) .masterDown) :
    inst.ticked env count = inst := by
  induction count with
  | zero => rfl
  | succ count ih =>
      have still := ih fun earlier before => waits earlier (Nat.lt_succ_of_lt before)
      have last := waits count (Nat.lt_succ_self count)
      rw [still] at last
      have notAdver : ¬ inst.Due (env count) .adver := by
        intro due
        have other := due_type due
        rw [type] at other
        contradiction
      rw [ticked, still, step_tick_waits last notAdver]

theorem fires_at_iff {env : ℕ → Env} {phase deadline : ℚ} (sound : inst.poisoned = false)
    (type : inst.vrouter.fsm.timer.tType = .masterDown)
    (armed : inst.vrouter.fsm.timer.waitingFor = some deadline)
    (atTick : ∀ tick : ℕ, (env tick).now = phase + tick) (tick : ℕ) :
    inst.FiresAt env tick ↔ FirstAfter phase deadline tick := by
  have due_iff (count : ℕ) :
      inst.Due (env count) .masterDown ↔ deadline < phase + count := by
    rw [due_iff sound type armed, atTick]
  constructor
  · rintro ⟨due, first⟩
    constructor
    · rw [ticked_waits type first] at due
      exact (due_iff tick).mp due
    · intro earlier before
      have waits := first earlier before
      rw [ticked_waits type fun sooner least => first sooner (least.trans before)] at waits
      exact not_lt.mp fun late => waits ((due_iff earlier).mpr late)
  · rintro ⟨late, first⟩
    have waits : ∀ earlier < tick, ¬ (inst.ticked env earlier).Due (env earlier) .masterDown := by
      intro earlier
      induction earlier using Nat.strong_induction_on with
      | _ earlier ih =>
          intro before
          rw [ticked_waits type fun sooner least => ih sooner least (least.trans before),
            due_iff earlier]
          exact not_lt.mpr (first earlier before)
    refine ⟨?_, waits⟩
    rw [ticked_waits type waits, due_iff tick]
    exact late

end Instance

end Failover
