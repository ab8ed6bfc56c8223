import Failover.Compatibility

/-!
# Two Masters of equal priority

Each has sent an advertisement that the other has not got yet. A Master steps
down for any advertisement of its own priority that it hears, whatever the
addresses of the two are.
-/

namespace Failover

open Library VirtualRouter

set_option autoImplicit false

theorem master_after_tie {sender receiver : VirtualRouter} (group : SameGroup sender receiver)
    (advertisable : sender.Advertisable) (senderReady : sender.Prepared)
    (receiverReady : receiver.Prepared) (equal : sender.priority = receiver.priority)
    (positive : receiver.priority ≠ 0) {inst : Instance}
    (runs : Instance.RunOf receiver inst) (master : inst.vrouter.fsm.state = .master)
    {message : Input} (sent : message ∈ sender.adverts) (env : Env) :
    (inst.step env message).1.vrouter.fsm.state = .master ↔ message.FromLocal env := by
  have sound := runs.sound_of_master master
  have transition := Instance.step_transition sound env message
  by_cases fromLocal : message.FromLocal env
  · have idle := unheard_idle transition (advert_vrrp sent) (from_local_unheard fromLocal inst.vrouter)
    rw [idle.1]
    exact iff_of_true master fromLocal
  · rcases advert_heard group advertisable senderReady receiverReady runs sent fromLocal with
      ⟨packet, hears, priority⟩
    have stepped := state_after_hearing transition hears
    have yields : inst.vrouter.candidate.next .master (.hear packet.priority.toNat) = .backup := by
      rw [Candidate.master_yields_iff, priority, equal]
      exact ⟨positive_toNat.mpr positive, by simp [candidate, runs.priority]⟩
    rw [stepped, master, yields]
    exact iff_of_false (by decide) fromLocal

variable {fromStr : String → Option IpNet} {Name : Type*} [DecidableEq Name]

/-- Two Masters of one virtual router with one priority, each with an advertisement
in flight to the other: exactly one of them is Master in the end precisely when
exactly one of the two advertisements comes from an address of its receiver. -/
theorem one_master_after_tie_iff {configs : List Config}
    (accepted : validateConfigs fromStr configs = .ok ()) {conf peer : Config}
    (member : conf ∈ configs) (same : conf.SameVirtualRouter peer)
    (equal : conf.priority = peer.priority) (positive : conf.priority ≠ 0)
    {leftRouter rightRouter : VirtualRouter} {leftParent rightParent : NetworkInterface}
    {leftIp rightIp : Ipv4Addr}
    (leftBuilt : leftRouter = (configToVr fromStr conf).prepare leftParent leftIp)
    (rightBuilt : rightRouter = (configToVr fromStr peer).prepare rightParent rightIp)
    {left right : Name} (different : left ≠ right) {cluster : Cluster Name}
    (leftReachable : Instance.machine.Reachable (Instance.new leftRouter) (cluster.locals left))
    (rightReachable : Instance.machine.Reachable (Instance.new rightRouter)
      (cluster.locals right))
    (leftMaster : (cluster.locals left).vrouter.fsm.state = .master)
    (rightMaster : (cluster.locals right).vrouter.fsm.state = .master)
    {toLeft toRight : Input} (leftSent : toRight ∈ leftRouter.adverts)
    (rightSent : toLeft ∈ rightRouter.adverts) {leftEnv rightEnv : Env}
    {deliveries : List (Name × Env × Input)}
    (order : deliveries = [(left, leftEnv, toLeft), (right, rightEnv, toRight)] ∨
      deliveries = [(right, rightEnv, toRight), (left, leftEnv, toLeft)]) :
    let after := (Soup.machine Instance.party).after cluster deliveries
    Xor ((after.locals left).vrouter.fsm.state = .master)
        ((after.locals right).vrouter.fsm.state = .master) ↔
      Xor (toLeft.FromLocal leftEnv) (toRight.FromLocal rightEnv) := by
  intro after
  have leftReady : leftRouter.Prepared := by
    rw [leftBuilt]
    exact prepared_of_valid accepted member leftParent leftIp
  have rightReady : rightRouter.Prepared := by
    rw [rightBuilt]
    exact prepared_of_same accepted member same rightParent rightIp
  have advertisable : leftRouter.Advertisable := by
    rw [leftBuilt]
    exact config_to_vr_advertisable accepted member leftParent leftIp
  have group : SameGroup leftRouter rightRouter := by
    rw [leftBuilt, rightBuilt]
    exact config_to_vr_same_group fromStr same leftParent rightParent leftIp rightIp
  have samePriority : leftRouter.priority = rightRouter.priority := by
    rw [leftBuilt, rightBuilt]
    exact equal
  have leftPositive : leftRouter.priority ≠ 0 := by
    rw [leftBuilt]
    exact positive
  have leftAfter := master_after_tie group.symm (group.advertisable advertisable) rightReady
    leftReady samePriority.symm leftPositive (Instance.run_of_reachable leftReachable) leftMaster
    rightSent leftEnv
  have rightAfter := master_after_tie group advertisable leftReady rightReady samePriority
    (samePriority ▸ leftPositive) (Instance.run_of_reachable rightReachable) rightMaster
    leftSent rightEnv
  have locals : after.locals left = ((cluster.locals left).step leftEnv toLeft).1 ∧
      after.locals right = ((cluster.locals right).step rightEnv toRight).1 := by
    rcases order with rfl | rfl
    · simp [after, Soup.machine, Instance.party, Machine.after_cons, different, different.symm]
    · simp [after, Soup.machine, Instance.party, Machine.after_cons, different, different.symm]
  rw [locals.1, locals.2, leftAfter, rightAfter]

namespace Sample

def installed : List IpNet := [virtualIpv4]

def master (host : Nat) : Instance :=
  Instance.machine.after (Instance.new (router .v2 100 host))
    [(env host 0 [] [], .notify .startup), (env host 10 [] [], .tick)]

def duel (leftHost rightHost : Nat) : Cluster Bool where
  locals side := master (if side then leftHost else rightHost)
  sent := [.vrrpV4 (router .v2 100 leftHost).ipv4Advert,
    .vrrpV4 (router .v2 100 rightHost).ipv4Advert]

def duelAfter (leftHost rightHost : Nat) : Cluster Bool :=
  (Soup.machine Instance.party).after (duel leftHost rightHost)
    [(true, env leftHost 11 installed [], .vrrpV4 (router .v2 100 rightHost).ipv4Advert),
      (false, env rightHost 11 installed [], .vrrpV4 (router .v2 100 leftHost).ipv4Advert)]

end Sample

/-- The left router's own address is the virtual address, which the right one has
installed, so only the left one steps down. -/
theorem owner_loses_tie :
    Xor (((Sample.duelAfter 1 20).locals true).vrouter.fsm.state = .master)
      (((Sample.duelAfter 1 20).locals false).vrouter.fsm.state = .master) :=
  (@one_master_after_tie_iff Sample.parseNet Bool _ [Sample.config .v2 100] rfl
    (Sample.config .v2 100) (Sample.config .v2 100) List.mem_cons_self rfl rfl (by decide)
    (Sample.router .v2 100 1) (Sample.router .v2 100 20) _ _ _ _ rfl rfl true false (by decide)
    (Sample.duel 1 20) (Machine.reachable_after _ _ _) (Machine.reachable_after _ _ _)
    (by decide +kernel) (by decide +kernel) (.vrrpV4 (Sample.router .v2 100 20).ipv4Advert)
    (.vrrpV4 (Sample.router .v2 100 1).ipv4Advert) (mem_adverts.mpr (.inl rfl))
    (mem_adverts.mpr (.inl rfl)) (Sample.env 1 11 Sample.installed [])
    (Sample.env 20 11 Sample.installed []) _ (.inl rfl)).mpr
    (.inr ⟨by simp only [Input.FromLocal]; decide +kernel,
      by simp only [Input.FromLocal]; decide +kernel⟩)

/-- Two Masters with addresses of their own both step down. -/
theorem tie_leaves_no_master :
    let left := Sample.router .v2 100 10
    let right := Sample.router .v2 100 20
    let toRight := Input.vrrpV4 left.ipv4Advert
    let toLeft := Input.vrrpV4 right.ipv4Advert
    let leftEnv := Sample.env 10 11 Sample.installed []
    let rightEnv := Sample.env 20 11 Sample.installed []
    Instance.machine.Reachable (Instance.new left) ((Sample.duel 10 20).locals true) ∧
      Instance.machine.Reachable (Instance.new right) ((Sample.duel 10 20).locals false) ∧
      left.primaryIp ≠ right.primaryIp ∧ toRight ∈ left.adverts ∧ toLeft ∈ right.adverts ∧
      ((Sample.duel 10 20).locals true).vrouter.fsm.state = .master ∧
      ((Sample.duel 10 20).locals false).vrouter.fsm.state = .master ∧
      ∀ deliveries ∈ [[(true, leftEnv, toLeft), (false, rightEnv, toRight)],
          [(false, rightEnv, toRight), (true, leftEnv, toLeft)]],
        let after := (Soup.machine Instance.party).after (Sample.duel 10 20) deliveries
        (after.locals true).vrouter.fsm.state = .backup ∧
          (after.locals false).vrouter.fsm.state = .backup :=
  ⟨Machine.reachable_after _ _ _, Machine.reachable_after _ _ _, by decide,
    mem_adverts.mpr (.inl rfl), mem_adverts.mpr (.inl rfl), by decide +kernel, by decide +kernel,
    by decide +kernel⟩

end Failover
