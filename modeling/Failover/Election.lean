import Failover.Transition
import Mathlib.Order.Basic

/-!
# The election that an instance takes part in

What the daemon is for, without packets, timers and interfaces: a candidate
follows the signals it gets, and its state is all that others can rely on. The
last part shows that the state of an instance is the state of this candidate
under the signals its inputs mean.
-/

namespace Failover

open Library VirtualRouter

set_option autoImplicit false

structure Candidate (Priority : Type*) where
  priority : Priority
  /-- Owns the addresses and claims them when it starts. -/
  owner : Bool
  preempt : Bool

/-- Zero is the priority of a router that is leaving. -/
inductive Signal (Priority : Type*) where
  | start
  | stop
  | expire
  | hear (priority : Priority)
  | quiet

namespace Candidate

variable {Priority : Type*} [LinearOrder Priority] [Zero Priority]

def next (candidate : Candidate Priority) : State → Signal Priority → State
  | .init, .start => if candidate.owner = true then .master else .backup
  | .backup, .stop => .init
  | .master, .stop => .init
  | .backup, .expire => .master
  | .backup, .hear heard =>
      if heard ≠ 0 ∧ candidate.preempt = true ∧ heard < candidate.priority then .master
      else .backup
  | .master, .hear heard => if heard ≠ 0 ∧ candidate.priority ≤ heard then .backup else .master
  | state, _ => state

theorem master_stays_iff (candidate : Candidate Priority) (signal : Signal Priority) :
    candidate.next .master signal = .master ↔
      signal ≠ .stop ∧ ∀ heard, signal = .hear heard → heard = 0 ∨ heard < candidate.priority := by
  cases signal with
  | hear heard =>
      simp only [next, ne_eq, reduceCtorEq, not_false_eq_true, true_and, Signal.hear.injEq,
        forall_eq']
      constructor
      · intro stays
        split at stays
        · contradiction
        · rename_i notSuperior
          rw [not_and, not_le] at notSuperior
          exact or_iff_not_imp_left.mpr notSuperior
      · rintro (zero | lower)
        · rw [if_neg (fun superior => superior.1 zero)]
        · rw [if_neg (fun superior => not_le.mpr lower superior.2)]
  | start => simp [next]
  | stop => simp [next]
  | expire => simp [next]
  | quiet => simp [next]

theorem master_yields_iff (candidate : Candidate Priority) (heard : Priority) :
    candidate.next .master (.hear heard) = .backup ↔
      heard ≠ 0 ∧ candidate.priority ≤ heard := by
  simp only [next]
  split <;> simp_all

/-- A Backup is promoted by nothing but its deadline and, when it pre-empts, a
lower priority than its own. -/
theorem backup_promoted_iff (candidate : Candidate Priority) (signal : Signal Priority) :
    candidate.next .backup signal = .master ↔ signal = .expire ∨
      ∃ heard, signal = .hear heard ∧ heard ≠ 0 ∧ candidate.preempt = true ∧
        heard < candidate.priority := by
  cases signal <;> simp [next]

theorem init_left_iff (candidate : Candidate Priority) (signal : Signal Priority) :
    candidate.next .init signal ≠ .init ↔ signal = .start := by
  cases signal with
  | start =>
      simp only [next]
      split <;> simp
  | stop => simp [next]
  | expire => simp [next]
  | hear heard => simp [next]
  | quiet => simp [next]

theorem stopped_of_init {candidate : Candidate Priority} {state : State}
    {signal : Signal Priority} (stopped : candidate.next state signal = .init) :
    state = .init ∨ signal = .stop := by
  cases state with
  | init => exact .inl rfl
  | backup =>
      cases signal with
      | stop => exact .inr rfl
      | hear heard =>
          simp only [next] at stopped
          split at stopped <;> contradiction
      | _ => contradiction
  | master =>
      cases signal with
      | stop => exact .inr rfl
      | hear heard =>
          simp only [next] at stopped
          split at stopped <;> contradiction
      | _ => contradiction

end Candidate

def VirtualRouter.candidate (vrouter : VirtualRouter) : Candidate ℕ where
  priority := vrouter.priority.toNat
  owner := vrouter.priority = 255
  preempt := vrouter.preemptMode

/-- What an input may mean to the election. An event whose mac-vlan is missing and
a packet that is dropped mean nothing. -/
inductive Means (env : Env) (vrouter : VirtualRouter) (input : Input) : Signal ℕ → Prop
  | start (fires : Fires env vrouter input .startup) : Means env vrouter input .start
  | stop (fires : Fires env vrouter input .shutdown) : Means env vrouter input .stop
  | expire (fires : Fires env vrouter input .masterDown) : Means env vrouter input .expire
  | hear {packet : VrrpPacket} (hears : vrouter.heard env input = some packet) :
      Means env vrouter input (.hear packet.priority.toNat)
  | quiet : Means env vrouter input .quiet

theorem fires_unheard {env : Env} {vrouter : VirtualRouter} {input : Input} {event : Event}
    (fires : Fires env vrouter input event) : vrouter.heard env input = none := by
  cases fires <;> rfl

theorem VirtualRouter.fires_handles {env : Env} {vrouter : VirtualRouter} {input : Input} {event : Event}
    (fires : Fires env vrouter input event) :
    vrouter.handle env input = vrouter.notifyMut env event := by
  cases fires with
  | notify => rfl
  | tick deadline =>
      rcases deadline with ⟨tType, waiting, present, passed⟩
      simp only [handle, timerTick, tType, present, if_pos passed]

theorem neighbor_unheard {input : Input} (neighbor : input.IsNeighbor) (env : Env)
    (vrouter : VirtualRouter) : vrouter.heard env input = none := by
  cases input with
  | arp packet => rfl
  | ndp payload => rfl
  | notify event => exact neighbor.elim
  | tick => exact neighbor.elim
  | vrrpV4 packet => exact neighbor.elim
  | vrrpV6 payload srcIp => exact neighbor.elim

theorem heard_vrrp {env : Env} {vrouter : VirtualRouter} {input : Input} {packet : VrrpPacket}
    (hears : vrouter.heard env input = some packet) : input.IsVrrp := by
  cases input <;> trivial

theorem fires_not_vrrp {env : Env} {vrouter : VirtualRouter} {input : Input} {event : Event}
    (fires : Fires env vrouter input event) : ¬ input.IsVrrp := by
  cases fires <;> exact id

theorem unheard_idle {env : Env} {vrouter next : VirtualRouter} {input : Input}
    {effects : List Effect} {panicked : Bool}
    (transition : Transition env vrouter input next effects panicked) (vrrp : input.IsVrrp)
    (nothing : vrouter.heard env input = none) :
    next = vrouter ∧ effects = [] ∧ panicked = false := by
  have unheard {packet : VrrpPacket} (hears : vrouter.heard env input = some packet) : False := by
    rw [nothing] at hears
    contradiction
  cases transition with
  | silent => exact ⟨rfl, rfl, rfl⟩
  | neighbor neighbor => cases input <;> first | exact neighbor.elim | exact vrrp.elim
  | panics fires => exact absurd vrrp (fires_not_vrrp fires)
  | takesOver fires => exact absurd vrrp (fires_not_vrrp fires)
  | starts fires => exact absurd vrrp (fires_not_vrrp fires)
  | stopsInit fires => exact absurd vrrp (fires_not_vrrp fires)
  | stopsBackup fires => exact absurd vrrp (fires_not_vrrp fires)
  | stopsMaster fires => exact absurd vrrp (fires_not_vrrp fires)
  | advertises => exact vrrp.elim
  | hearsLeaving hears => exact (unheard hears).elim
  | defers hears => exact (unheard hears).elim
  | preempts hears => exact (unheard hears).elim
  | answers hears => exact (unheard hears).elim
  | yields event hears => exact (unheard hears).elim

/-- What the dispatch makes of a packet that has passed every check. -/
inductive Hearing (env : Env) (vrouter : VirtualRouter) (packet : VrrpPacket) :
    VirtualRouter → List Effect → Prop
  | stopped (state : vrouter.fsm.state = .init) : Hearing env vrouter packet vrouter []
  | outranked (state : vrouter.fsm.state = .master) (positive : packet.priority ≠ 0)
      (lower : packet.priority < vrouter.priority) : Hearing env vrouter packet vrouter []
  | hearsLeaving (state : vrouter.fsm.state = .backup) (leaving : packet.priority = 0) :
      Hearing env vrouter packet
        (vrouter.withFsm (vrouter.fsm.setMasterDownTimer env.setAt vrouter.skewTime)) []
  | defers (state : vrouter.fsm.state = .backup) (positive : packet.priority ≠ 0)
      (superior : vrouter.preemptMode = false ∨ vrouter.priority ≤ packet.priority) :
      Hearing env vrouter packet
        (vrouter.withFsm (vrouter.fsm.setMasterDownTimer env.setAt vrouter.masterDownInterval)) []
  | preempts {iface : String} (link : vrouter.macVlan packet.addresses.family = some iface)
      (state : vrouter.fsm.state = .backup) (positive : packet.priority ≠ 0)
      (preempt : vrouter.preemptMode = true) (lower : packet.priority < vrouter.priority) :
      Hearing env vrouter packet (vrouter.withFsm (vrouter.masterFsm env))
        [.virtualAddressAction .add (vrouter.nets packet.addresses.family) iface]
  | answers (state : vrouter.fsm.state = .master) (leaving : packet.priority = 0) :
      Hearing env vrouter packet
        (vrouter.withFsm (vrouter.fsm.setAdvertTimer env.setAt vrouter.advertInterval.toNat))
        vrouter.sendAdvertisement
  | yields {iface : String} (event : Event)
      (link : vrouter.macVlan packet.addresses.family = some iface)
      (state : vrouter.fsm.state = .master) (positive : packet.priority ≠ 0)
      (superior : vrouter.priority ≤ packet.priority) :
      Hearing env vrouter packet (vrouter.withFsm ((vrouter.backupFsm env).setEvent event))
        [.virtualAddressAction .delete (vrouter.nets packet.addresses.family) iface]

theorem transition_hearing {env : Env} {vrouter next : VirtualRouter} {input : Input}
    {effects : List Effect} {panicked : Bool} {packet : VrrpPacket}
    (transition : Transition env vrouter input next effects panicked)
    (hears : vrouter.heard env input = some packet) :
    Hearing env vrouter packet next effects ∧ panicked = false := by
  have known {other : VrrpPacket} (same : vrouter.heard env input = some other) :
      packet = other := Option.some.inj (hears.symm.trans same)
  have unheard (nothing : vrouter.heard env input = none) : False := by
    rw [nothing] at hears
    contradiction
  cases transition with
  | silent why =>
      cases why with
      | unheard vrrp nothing => exact (unheard nothing).elim
      | stopped _ state => exact ⟨.stopped state, rfl⟩
      | outranked same state positive lower =>
          obtain rfl := known same
          exact ⟨.outranked state positive lower, rfl⟩
      | noLink fires => exact (unheard (fires_unheard fires)).elim
      | ignored fires => exact (unheard (fires_unheard fires)).elim
      | waits => exact (unheard rfl).elim
  | neighbor neighbor => exact (unheard (neighbor_unheard neighbor env vrouter)).elim
  | panics fires => exact (unheard (fires_unheard fires)).elim
  | takesOver fires => exact (unheard (fires_unheard fires)).elim
  | starts fires => exact (unheard (fires_unheard fires)).elim
  | stopsInit fires => exact (unheard (fires_unheard fires)).elim
  | stopsBackup fires => exact (unheard (fires_unheard fires)).elim
  | stopsMaster fires => exact (unheard (fires_unheard fires)).elim
  | advertises => exact (unheard rfl).elim
  | hearsLeaving same state leaving =>
      obtain rfl := known same
      exact ⟨.hearsLeaving state leaving, rfl⟩
  | defers same state positive superior =>
      obtain rfl := known same
      exact ⟨.defers state positive superior, rfl⟩
  | preempts same link state positive preempt lower =>
      obtain rfl := known same
      exact ⟨.preempts link state positive preempt lower, rfl⟩
  | answers same state leaving =>
      obtain rfl := known same
      exact ⟨.answers state leaving, rfl⟩
  | yields event same link state positive superior =>
      obtain rfl := known same
      exact ⟨.yields event link state positive superior, rfl⟩

theorem outranked_idle {env : Env} {vrouter next : VirtualRouter} {input : Input}
    {effects : List Effect} {panicked : Bool} {packet : VrrpPacket}
    (transition : Transition env vrouter input next effects panicked)
    (hears : vrouter.heard env input = some packet)
    (ignores : vrouter.fsm.state = .init ∨ vrouter.fsm.state = .master ∧ packet.priority ≠ 0 ∧
      packet.priority < vrouter.priority) :
    next = vrouter ∧ effects = [] ∧ panicked = false := by
  have notBackup (state : vrouter.fsm.state = .backup) : False := by
    simp [state] at ignores
  rcases transition_hearing transition hears with ⟨hearing, calm⟩
  cases hearing with
  | stopped => exact ⟨rfl, rfl, calm⟩
  | outranked => exact ⟨rfl, rfl, calm⟩
  | hearsLeaving state => exact (notBackup state).elim
  | defers state => exact (notBackup state).elim
  | preempts link state => exact (notBackup state).elim
  | answers state leaving => simp [state, leaving] at ignores
  | yields event link state positive superior =>
      rw [← UInt8.not_lt] at superior
      simp [state, superior] at ignores

theorem positive_toNat {priority : UInt8} : priority.toNat ≠ 0 ↔ priority ≠ 0 := by
  rw [not_iff_not]
  exact UInt8.toNat_inj (b := 0)

theorem state_after_hearing {env : Env} {vrouter next : VirtualRouter} {input : Input}
    {effects : List Effect} {panicked : Bool} {packet : VrrpPacket}
    (transition : Transition env vrouter input next effects panicked)
    (hears : vrouter.heard env input = some packet) :
    next.fsm.state =
      vrouter.candidate.next vrouter.fsm.state (.hear packet.priority.toNat) := by
  cases (transition_hearing transition hears).1 with
  | stopped state => simp [state, Candidate.next]
  | outranked state positive lower =>
      rw [UInt8.lt_iff_toNat_lt] at lower
      rw [state, Candidate.next, if_neg (fun superior => not_le.mpr lower superior.2)]
  | hearsLeaving state leaving => simp [state, leaving, Candidate.next]
  | defers state positive superior =>
      rw [UInt8.le_iff_toNat_le] at superior
      have stays : ¬ (packet.priority.toNat ≠ 0 ∧ vrouter.candidate.preempt = true ∧
          packet.priority.toNat < vrouter.candidate.priority) := by
        rintro ⟨_, preempt, lower⟩
        rcases superior with noPreempt | higher
        · simp [VirtualRouter.candidate, noPreempt] at preempt
        · exact not_le.mpr lower higher
      rw [state, Candidate.next, if_neg stays, with_fsm_fsm,
        VirtualRouterMachine.set_master_down_timer_state, state]
  | preempts link state positive preempt lower =>
      rw [UInt8.lt_iff_toNat_lt] at lower
      rw [state, Candidate.next, if_pos ⟨positive_toNat.mpr positive, preempt, lower⟩]
      rfl
  | answers state leaving => simp [state, leaving, Candidate.next]
  | yields event link state positive superior =>
      rw [UInt8.le_iff_toNat_le] at superior
      rw [state, Candidate.next, if_pos ⟨positive_toNat.mpr positive, superior⟩]
      rfl

theorem transition_simulates {env : Env} {vrouter next : VirtualRouter} {input : Input}
    {effects : List Effect} {panicked : Bool}
    (transition : Transition env vrouter input next effects panicked) :
    ∃ signal, Means env vrouter input signal ∧
      next.fsm.state = vrouter.candidate.next vrouter.fsm.state signal := by
  have still : vrouter.fsm.state = vrouter.candidate.next vrouter.fsm.state .quiet := by
    cases vrouter.fsm.state <;> rfl
  cases hears : vrouter.heard env input with
  | some packet => exact ⟨_, .hear hears, state_after_hearing transition hears⟩
  | none =>
      cases transition with
      | silent why => exact ⟨_, .quiet, still⟩
      | neighbor neighbor => exact ⟨_, .quiet, still⟩
      | panics fires => exact ⟨_, .quiet, still⟩
      | takesOver fires takesOver =>
          rcases takesOver with ⟨rfl, state, owner⟩ | ⟨rfl, state⟩
          · exact ⟨_, .start fires, by simp [state, Candidate.next, candidate, owner, masterFsm]⟩
          · exact ⟨_, .expire fires, by simp [state, Candidate.next, masterFsm]⟩
      | starts fires link state notOwner =>
          exact ⟨_, .start fires, by simp [state, Candidate.next, candidate, notOwner, backupFsm]⟩
      | stopsInit fires link state => exact ⟨_, .quiet, still⟩
      | stopsBackup fires link state =>
          exact ⟨_, .stop fires, by simp [state, Candidate.next, initFsm]⟩
      | stopsMaster fires link state =>
          exact ⟨_, .stop fires, by simp [state, Candidate.next, initFsm]⟩
      | advertises => exact ⟨_, .quiet, by simpa using still⟩
      | hearsLeaving same => simp [hears] at same
      | defers same => simp [hears] at same
      | preempts same => simp [hears] at same
      | answers same => simp [hears] at same
      | yields event same => simp [hears] at same

/-- One step of an instance is one step of its candidate. -/
theorem step_simulates (inst : Instance) (env : Env) (input : Input) :
    ∃ signal, Means env inst.vrouter input signal ∧
      (inst.step env input).1.vrouter.fsm.state =
        inst.vrouter.candidate.next inst.vrouter.fsm.state signal := by
  cases poisoned : inst.poisoned with
  | true =>
      refine ⟨_, .quiet, ?_⟩
      rw [Instance.step_poisoned poisoned]
      cases inst.vrouter.fsm.state <;> rfl
  | false => exact transition_simulates (Instance.step_transition poisoned env input)

end Failover
