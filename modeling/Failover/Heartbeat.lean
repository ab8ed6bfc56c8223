import Failover.Compatibility
import Failover.Ticks

/-!
# The advertisements of a Master at its ticks

A Master looks at its timer once a second and sends when the interval since its
last advertisement is over. Whoever hears it is a Backup with a new deadline.
-/

namespace Failover

open Library VirtualRouter

set_option autoImplicit false

theorem transition_unheard {env : Env} {vrouter next : VirtualRouter} {input : Input}
    {effects : List Effect} {panicked : Bool}
    (transition : Transition env vrouter input next effects panicked)
    (unnotified : ∀ event, input ≠ .notify event) (untimed : input ≠ .tick)
    (nothing : vrouter.heard env input = none) : next = vrouter ∧ panicked = false := by
  have calm {event : Event} (fires : Fires env vrouter input event) : False := by
    cases fires with
    | notify => exact unnotified event rfl
    | tick => exact untimed rfl
  have unheard {packet : VrrpPacket} (hears : vrouter.heard env input = some packet) : False := by
    rw [nothing] at hears
    contradiction
  cases transition with
  | silent => exact ⟨rfl, rfl⟩
  | neighbor => exact ⟨rfl, rfl⟩
  | panics fires => exact (calm fires).elim
  | takesOver fires => exact (calm fires).elim
  | starts fires => exact (calm fires).elim
  | stopsInit fires => exact (calm fires).elim
  | stopsBackup fires => exact (calm fires).elim
  | stopsMaster fires => exact (calm fires).elim
  | advertises => exact absurd rfl untimed
  | hearsLeaving hears => exact (unheard hears).elim
  | defers hears => exact (unheard hears).elim
  | preempts hears => exact (unheard hears).elim
  | answers hears => exact (unheard hears).elim
  | yields _ hears => exact (unheard hears).elim

namespace Instance

structure Advertises (built : VirtualRouter) (inst : Instance) : Prop where
  runs : RunOf built inst
  state : inst.vrouter.fsm.state = .master
  matched : inst.vrouter.fsm.Matched

/-- The message is one that the tick of this number sends. -/
def Sends (master : Instance) (env : ℕ → Env) (tick : ℕ) (message : Input) : Prop :=
  message ∈ ((master.ticked env tick).step (env tick) .tick).2.filterMap Effect.arrival

variable {built : VirtualRouter} {inst : Instance} {env : ℕ → Env}

theorem reachable_matched (fresh : built.fsm = .default)
    (reachable : machine.Reachable (.new built) inst) : inst.vrouter.fsm.Matched := by
  apply machine.reachable_invariant (fun inst => inst.vrouter.fsm.Matched) _ _ reachable
  · exact fun inst moment matched => matched_step matched moment.1 moment.2
  · have initially : (new built).vrouter.fsm = .default := fresh
    rw [initially]
    exact ⟨rfl, rfl⟩

theorem Advertises.not_due_master_down (advertises : Advertises built inst) (env : Env) :
    ¬ inst.Due env .masterDown := by
  intro due
  have matched := advertises.matched
  simp [VirtualRouterMachine.Matched, advertises.state, due_type due] at matched

theorem Advertises.with_timer (advertises : Advertises built inst) (now : Instant)
    (duration : ℚ) :
    Advertises built
      { vrouter := inst.vrouter.withFsm (inst.vrouter.fsm.setAdvertTimer now duration)
        poisoned := false } := by
  rcases advertises.runs.config with ⟨fsm, config⟩
  constructor
  · exact ⟨⟨_, by rw [config, with_fsm_with_fsm]⟩, fun locked => nomatch locked⟩
  · exact advertises.state
  · simp [VirtualRouterMachine.Matched, advertises.state]

theorem advertises_ticked (advertises : Advertises built inst) (env : ℕ → Env) (count : ℕ) :
    Advertises built (inst.ticked env count) := by
  induction count with
  | zero => exact advertises
  | succ count ih =>
      rw [ticked]
      by_cases due : (inst.ticked env count).Due (env count) .adver
      · rw [step_tick_advertises due]
        exact ih.with_timer _ _
      · rw [step_tick_waits (ih.not_due_master_down _) due]
        exact ih

theorem sends_iff (advertises : Advertises built inst) (tick : ℕ) (message : Input) :
    inst.Sends env tick message ↔
      (inst.ticked env tick).Due (env tick) .adver ∧ message ∈ built.adverts := by
  have ticking := advertises_ticked advertises env tick
  unfold Sends
  by_cases due : (inst.ticked env tick).Due (env tick) .adver
  · rw [step_tick_advertises due, ← ticking.runs.adverts]
    exact (and_iff_right due).symm
  · rw [step_tick_waits (ticking.not_due_master_down _) due]
    simp [due]

theorem deadline_after_sending {tick : ℕ} (due : (inst.ticked env tick).Due (env tick) .adver) :
    (inst.ticked env (tick + 1)).vrouter.fsm.timer.waitingFor =
      some ((env tick).setAt + (inst.ticked env tick).vrouter.advertInterval.toNat) := by
  rw [ticked, step_tick_advertises due]
  rfl

theorem RunOf.advert_interval (runs : RunOf built inst) :
    inst.vrouter.advertInterval = built.advertInterval := by
  rcases runs.config with ⟨fsm, config⟩
  rw [config]
  rfl

theorem deadline_kept (advertises : Advertises built inst) {tick : ℕ}
    (due : (inst.ticked env tick).Due (env tick) .adver) (count : ℕ) :
    (∃ later, tick < later ∧ later ≤ tick + count ∧
        (inst.ticked env later).Due (env later) .adver) ∨
      (inst.ticked env (tick + 1 + count)).vrouter.fsm.timer.waitingFor =
        some ((env tick).setAt + built.advertInterval.toNat) := by
  induction count with
  | zero =>
      right
      rw [Nat.add_zero, deadline_after_sending due,
        (advertises_ticked advertises env tick).runs.advert_interval]
  | succ count ih =>
      rcases ih with ⟨later, after, within, sends⟩ | kept
      · exact .inl ⟨later, after, by omega, sends⟩
      · by_cases again : (inst.ticked env (tick + 1 + count)).Due (env (tick + 1 + count)) .adver
        · exact .inl ⟨tick + 1 + count, by omega, by omega, again⟩
        · right
          have ticking := advertises_ticked advertises env (tick + 1 + count)
          rw [← Nat.add_assoc, ticked, step_tick_waits (ticking.not_due_master_down _) again]
          exact kept

/-- A Master that handles each tick within a second sends again after at most one
tick more than its interval has seconds. -/
theorem sends_again (advertises : Advertises built inst) {phase : ℚ}
    (atTick : ∀ tick : ℕ, phase + tick ≤ (env tick).now)
    (prompt : ∀ tick : ℕ, (env tick).setAt < phase + tick + 1) {tick : ℕ}
    (due : (inst.ticked env tick).Due (env tick) .adver) :
    ∃ later, tick < later ∧ later ≤ tick + built.advertInterval.toNat + 1 ∧
      (inst.ticked env later).Due (env later) .adver := by
  rcases deadline_kept advertises due built.advertInterval.toNat with
    ⟨later, after, within, sends⟩ | kept
  · exact ⟨later, after, by omega, sends⟩
  · refine ⟨tick + 1 + built.advertInterval.toNat, by omega, by omega, ?_⟩
    have ticking := advertises_ticked advertises env (tick + 1 + built.advertInterval.toNat)
    have matched := ticking.matched
    simp only [VirtualRouterMachine.Matched, ticking.state] at matched
    apply (due_iff (ticking.runs.sound_of_master ticking.state) matched.1 kept).mpr
    have reading := atTick (tick + 1 + built.advertInterval.toNat)
    have armed := prompt tick
    push_cast at reading
    linarith

theorem RunOf.heard (runs : RunOf built inst) (env : Env) (input : Input) :
    inst.vrouter.heard env input = built.heard env input := by
  rcases runs.config with ⟨fsm, config⟩
  rw [config]
  cases input <;> rfl

theorem step_not_init (env : Env) {input : Input} (unnotified : ∀ event, input ≠ .notify event)
    (state : inst.vrouter.fsm.state ≠ .init) :
    (inst.step env input).1.vrouter.fsm.state ≠ .init := by
  rcases step_simulates inst env input with ⟨signal, means, stepped⟩
  rw [stepped]
  intro stopped
  rcases Candidate.stopped_of_init stopped with before | rfl
  · exact state before
  · cases means with
    | stop fires =>
        cases fires
        exact unnotified .shutdown rfl

theorem step_unheard (env : Env) {input : Input} (unnotified : ∀ event, input ≠ .notify event)
    (untimed : input ≠ .tick) (nothing : inst.vrouter.heard env input = none) :
    (inst.step env input).1 = inst := by
  cases poisoned : inst.poisoned with
  | true => rw [step_poisoned poisoned]
  | false =>
      have unchanged := transition_unheard (step_transition poisoned env input) unnotified untimed
        nothing
      exact Instance.ext unchanged.1 (unchanged.2.trans poisoned.symm)

theorem step_follows (runs : RunOf built inst) (sound : inst.poisoned = false)
    (state : inst.vrouter.fsm.state ≠ .init) {env : Env} {input : Input} {packet : VrrpPacket}
    (hears : built.heard env input = some packet) (positive : packet.priority ≠ 0)
    (superior : built.priority ≤ packet.priority) :
    (inst.step env input).1.poisoned = false ∧
      (inst.step env input).1.vrouter.fsm.state = .backup ∧
      (inst.step env input).1.vrouter.fsm.timer =
        { tType := .masterDown
          remainingTime := built.masterDownInterval
          waitingFor := some (env.setAt + built.masterDownInterval) } := by
  have interval : inst.vrouter.masterDownInterval = built.masterDownInterval := by
    rcases runs.config with ⟨fsm, config⟩
    rw [config]
    rfl
  rw [← runs.heard] at hears
  rw [← runs.priority] at superior
  have hearing := transition_hearing (step_transition sound env input) hears
  refine ⟨hearing.2, ?_⟩
  have hearing := hearing.1
  generalize (inst.step env input).1.vrouter = next at hearing ⊢
  generalize (inst.step env input).2 = effects at hearing
  cases hearing with
  | stopped init => exact absurd init state
  | outranked _ _ lower => exact absurd lower (UInt8.not_lt.mpr superior)
  | hearsLeaving _ leaving => exact absurd leaving positive
  | defers backup => simp [backup, interval]
  | preempts _ _ _ _ lower => exact absurd lower (UInt8.not_lt.mpr superior)
  | answers _ leaving => exact absurd leaving positive
  | yields event => simp [backupFsm, interval]

theorem step_takes_over (sound : inst.poisoned = false) {env : Env} {input : Input} {event : Event}
    (fires : Fires env inst.vrouter input event) (takesOver : inst.vrouter.TakesOver event)
    {interface : NetworkInterface} {mac : MacAddr}
    (link : env.getInterface inst.vrouter.macVlanInterfaceV4 = .ok interface)
    (found : interface.mac = some mac) :
    (inst.step env input).1 =
      { vrouter := inst.vrouter.withFsm (inst.vrouter.masterFsm env), poisoned := false } := by
  have becomes : inst.vrouter.notifyMut env event = inst.vrouter.becomeMaster env interface := by
    rcases takesOver with ⟨rfl, state, owner⟩ | ⟨rfl, state⟩
    · simp only [notifyMut, link, if_pos state, if_pos owner]
    · simp only [notifyMut, link, if_pos state]
  simp only [step, sound, Bool.false_eq_true, if_false, fires_handles fires, becomes, becomeMaster,
    found]
  rfl

theorem step_starts (sound : inst.poisoned = false) {env : Env}
    (state : inst.vrouter.fsm.state = .init) (notOwner : inst.vrouter.priority ≠ 255)
    {interface : NetworkInterface}
    (link : env.getInterface inst.vrouter.macVlanInterfaceV4 = .ok interface) :
    (inst.step env (.notify .startup)).1 =
      { vrouter := inst.vrouter.withFsm (inst.vrouter.backupFsm env), poisoned := false } := by
  simp only [step, sound, Bool.false_eq_true, if_false, VirtualRouter.handle, notifyMut, link,
    if_pos state, if_neg notOwner]
  rfl

end Instance

end Failover
