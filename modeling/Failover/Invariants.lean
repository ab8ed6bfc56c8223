import Failover.Election
import Failover.MacVlan

/-!
# What every reachable instance keeps

Handlers assign the election state and nothing else, and a panic never leaves a
Master behind a poisoned lock.
-/

namespace Failover

open Library VirtualRouter

set_option autoImplicit false

theorem transition_config {env : Env} {vrouter next : VirtualRouter} {input : Input}
    {effects : List Effect} {panicked : Bool}
    (transition : Transition env vrouter input next effects panicked) :
    ∃ fsm, next = vrouter.withFsm fsm := by
  cases transition with
  | silent => exact ⟨vrouter.fsm, rfl⟩
  | neighbor => exact ⟨vrouter.fsm, rfl⟩
  | panics => exact ⟨vrouter.fsm, rfl⟩
  | stopsInit => exact ⟨vrouter.fsm, rfl⟩
  | _ => exact ⟨_, rfl⟩

/-- A handler panics only where the router is about to leave Init or Backup. -/
theorem panicked_not_master {env : Env} {vrouter next : VirtualRouter} {input : Input}
    {effects : List Effect}
    (transition : Transition env vrouter input next effects true) :
    next.fsm.state ≠ .master := by
  cases transition with
  | panics fires takesOver =>
      rcases takesOver with ⟨_, state, _⟩ | ⟨_, state⟩ <;> simp [state]

/-- The timer that goes with each election state. -/
def VirtualRouterMachine.Matched (fsm : VirtualRouterMachine) : Prop :=
  match fsm.state with
  | .init => fsm.timer.tType = .null ∧ fsm.timer.waitingFor = none
  | .backup => fsm.timer.tType = .masterDown ∧ fsm.timer.waitingFor.isSome = true
  | .master => fsm.timer.tType = .adver ∧ fsm.timer.waitingFor.isSome = true

theorem VirtualRouterMachine.Matched.master {fsm : VirtualRouterMachine} (matched : fsm.Matched)
    (tType : fsm.timer.tType = .adver) : fsm.state = .master := by
  unfold Matched at matched
  split at matched
  · rw [matched.1] at tType
    contradiction
  · rw [matched.1] at tType
    contradiction
  · assumption

theorem transition_matched {env : Env} {vrouter next : VirtualRouter} {input : Input}
    {effects : List Effect} {panicked : Bool}
    (transition : Transition env vrouter input next effects panicked)
    (matched : vrouter.fsm.Matched) : next.fsm.Matched := by
  cases transition with
  | silent => exact matched
  | neighbor => exact matched
  | panics => exact matched
  | takesOver => exact ⟨rfl, rfl⟩
  | starts => exact ⟨rfl, rfl⟩
  | stopsInit => exact matched
  | stopsBackup => exact ⟨rfl, rfl⟩
  | stopsMaster => exact ⟨rfl, rfl⟩
  | advertises deadline =>
      simp [VirtualRouterMachine.Matched, matched.master deadline.1]
  | hearsLeaving _ state => simp [VirtualRouterMachine.Matched, state]
  | defers _ state => simp [VirtualRouterMachine.Matched, state]
  | preempts => exact ⟨rfl, rfl⟩
  | answers _ state => simp [VirtualRouterMachine.Matched, state]
  | yields => exact ⟨rfl, rfl⟩

/-- The configuration an instance was built from, and its lock. -/
structure Instance.RunOf (built : VirtualRouter) (inst : Instance) : Prop where
  config : ∃ fsm, inst.vrouter = built.withFsm fsm
  lock : inst.poisoned = true → inst.vrouter.fsm.state ≠ .master

namespace Instance

theorem run_of_new (built : VirtualRouter) : RunOf built (new built) :=
  ⟨⟨built.fsm, rfl⟩, fun poisoned => nomatch poisoned⟩

theorem run_of_step {built : VirtualRouter} {inst : Instance} (holds : RunOf built inst)
    (env : Env) (input : Input) : RunOf built (inst.step env input).1 := by
  cases poisoned : inst.poisoned with
  | true =>
      rw [step_poisoned poisoned]
      exact holds
  | false =>
      have transition := step_transition poisoned env input
      constructor
      · obtain ⟨fsm, same⟩ := holds.config
        obtain ⟨nextFsm, next⟩ := transition_config transition
        exact ⟨nextFsm, by rw [next, same, with_fsm_with_fsm]⟩
      · intro panicked
        rw [panicked] at transition
        exact panicked_not_master transition

theorem run_of_reachable {built : VirtualRouter} {inst : Instance}
    (reachable : machine.Reachable (new built) inst) : RunOf built inst :=
  machine.reachable_invariant (RunOf built)
    (fun _ moment holds => run_of_step holds moment.1 moment.2) (run_of_new built) reachable

theorem RunOf.priority {built : VirtualRouter} {inst : Instance} (holds : RunOf built inst) :
    inst.vrouter.priority = built.priority := by
  rcases holds.config with ⟨fsm, config⟩
  rw [config]
  rfl

theorem RunOf.sound_of_master {built : VirtualRouter} {inst : Instance}
    (holds : RunOf built inst) (master : inst.vrouter.fsm.state = .master) :
    inst.poisoned = false := by
  cases poisoned : inst.poisoned with
  | false => rfl
  | true => exact absurd master (holds.lock poisoned)

end Instance

theorem VirtualRouter.Prepared.with_fsm {vrouter : VirtualRouter} (prepared : vrouter.Prepared)
    (fsm : VirtualRouterMachine) : (vrouter.withFsm fsm).Prepared :=
  ⟨prepared.v6_side, prepared.distinct, prepared.v4_only⟩

theorem VirtualRouter.Prepared.mac_vlan_injective {vrouter : VirtualRouter}
    (prepared : vrouter.Prepared) {left right : AddressFamily} {iface : String}
    (leftLink : vrouter.macVlan left = some iface)
    (rightLink : vrouter.macVlan right = some iface) : left = right := by
  cases left <;> cases right
  · rfl
  · simp only [macVlan, Option.some.injEq] at leftLink
    exact absurd leftLink.symm (prepared.distinct iface rightLink)
  · simp only [macVlan, Option.some.injEq] at rightLink
    exact absurd rightLink.symm (prepared.distinct iface leftLink)
  · rfl

theorem VirtualRouter.Prepared.mac_vlan_of_net {vrouter : VirtualRouter}
    (prepared : vrouter.Prepared) {family : AddressFamily} {net : IpNet}
    (configured : net ∈ vrouter.nets family) : ∃ iface, vrouter.macVlan family = some iface := by
  cases family with
  | v4 => exact ⟨_, rfl⟩
  | v6 =>
      cases version : vrouter.version with
      | v2 => simp [nets, strIpv6Addresses, prepared.v4_only version] at configured
      | v3 => exact Option.isSome_iff_exists.mp (prepared.v6_side.mpr version)

end Failover
