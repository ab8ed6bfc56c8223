import Failover.Cluster

/-!
# The election state and its timer

The state and the timer are assigned one after the other, in nine places. In
every state that an instance reaches they match, and a router in Init waits for
`Startup` in silence.
-/

namespace Failover

open Library VirtualRouter

set_option autoImplicit false

variable {env : Env} {vrouter next : VirtualRouter} {input : Input} {effects : List Effect}
  {panicked : Bool}

theorem VirtualRouter.not_takes_over_init (state : vrouter.fsm.state = .init) {event : Event}
    (started : event ≠ .startup) : ¬ vrouter.TakesOver event := by
  rintro (⟨startup, _⟩ | ⟨_, backup⟩)
  · exact started startup
  · simp [state] at backup

theorem VirtualRouter.Fires.not_startup {event : Event} (fires : Fires env vrouter input event)
    (unstarted : input ≠ .notify .startup) : event ≠ .startup := by
  intro same
  subst same
  cases fires
  exact unstarted rfl

theorem transition_init (transition : Transition env vrouter input next effects panicked)
    (matched : vrouter.fsm.Matched) (state : vrouter.fsm.state = .init)
    (unstarted : input ≠ .notify .startup) :
    next.fsm.state = .init ∧ ∀ effect ∈ effects, ¬ effect.IsAdvertisement := by
  have stays : ¬ vrouter.fsm.state = .backup ∧ ¬ vrouter.fsm.state = .master := by
    simp [state]
  cases transition with
  | silent => exact ⟨state, by simp⟩
  | neighbor _ replies =>
      exact ⟨state, fun effect member => neighbor_not_advertisement (replies effect member)⟩
  | panics fires takesOver =>
      exact absurd takesOver (not_takes_over_init state (fires.not_startup unstarted))
  | takesOver fires takesOver =>
      exact absurd takesOver (not_takes_over_init state (fires.not_startup unstarted))
  | starts fires => exact absurd rfl (fires.not_startup unstarted)
  | stopsInit => exact ⟨state, delete_mac_vlans_send_nothing vrouter⟩
  | stopsBackup _ _ backup => exact absurd backup stays.1
  | stopsMaster _ _ master => exact absurd master stays.2
  | advertises deadline => exact absurd (matched.master deadline.1) stays.2
  | hearsLeaving _ backup => exact absurd backup stays.1
  | defers _ backup => exact absurd backup stays.1
  | preempts _ _ backup => exact absurd backup stays.1
  | answers _ master => exact absurd master stays.2
  | yields _ _ _ master => exact absurd master stays.2

theorem transition_shutdown {interface : NetworkInterface}
    (transition : Transition env vrouter (.notify .shutdown) next effects panicked)
    (link : env.getInterface vrouter.macVlanInterfaceV4 = .ok interface) :
    next.fsm.state = .init := by
  cases transition with
  | silent why =>
      cases why with
      | unheard vrrp => exact vrrp.elim
      | stopped _ state => exact state
      | outranked hears => exact nomatch hears
      | noLink _ missing => rw [link] at missing; contradiction
      | ignored fires _ ignores =>
          cases fires
          simp [Ignores] at ignores
  | neighbor neighbor => exact neighbor.elim
  | panics fires takesOver => cases fires; simp [TakesOver] at takesOver
  | takesOver fires takesOver => cases fires; simp [TakesOver] at takesOver
  | starts fires => nomatch fires
  | stopsInit _ _ state => exact state
  | stopsBackup => rfl
  | stopsMaster => rfl
  | hearsLeaving hears => nomatch hears
  | defers hears => nomatch hears
  | preempts hears => nomatch hears
  | answers hears => nomatch hears
  | yields _ hears => nomatch hears

namespace Instance

/-- Nothing but `Startup` moves this instance or makes it advertise. -/
def Dormant (inst : Instance) : Prop :=
  inst.poisoned = true ∨ inst.vrouter.fsm.state = .init ∧ inst.vrouter.fsm.Matched

theorem matched_step {inst : Instance} (matched : inst.vrouter.fsm.Matched) (env : Env)
    (input : Input) : (inst.step env input).1.vrouter.fsm.Matched := by
  cases poisoned : inst.poisoned with
  | true =>
      rw [step_poisoned poisoned]
      exact matched
  | false => exact transition_matched (step_transition poisoned env input) matched

theorem dormant_step {inst : Instance} (dormant : inst.Dormant) (env : Env)
    (unstarted : input ≠ .notify .startup) :
    (inst.step env input).1.Dormant ∧
      (inst.step env input).1.vrouter.fsm.state = inst.vrouter.fsm.state ∧
      ∀ effect ∈ (inst.step env input).2, ¬ effect.IsAdvertisement := by
  cases poisoned : inst.poisoned with
  | true =>
      rw [step_poisoned poisoned]
      exact ⟨.inl poisoned, rfl, by simp⟩
  | false =>
      rcases dormant with locked | ⟨state, matched⟩
      · simp [poisoned] at locked
      · have kept := transition_init (step_transition poisoned env input) matched state unstarted
        exact ⟨.inr ⟨kept.1, matched_step matched env input⟩, kept.1.trans state.symm, kept.2⟩

theorem dormant_run {inst : Instance} (dormant : inst.Dormant) {moments : List (Env × Input)}
    (unstarted : ∀ moment ∈ moments, moment.2 ≠ .notify .startup) :
    (machine.after inst moments).vrouter.fsm.state = inst.vrouter.fsm.state ∧
      ∀ effect ∈ machine.outputs inst moments, ¬ effect.IsAdvertisement := by
  have safe := machine.run_safe
    (fun reached => reached.Dormant ∧ reached.vrouter.fsm.state = inst.vrouter.fsm.state)
    (fun reached moment holds allowed => by
      have stepped := dormant_step holds.1 moment.1 allowed
      exact ⟨⟨stepped.1, stepped.2.1.trans holds.2⟩, stepped.2.2⟩)
    ⟨dormant, rfl⟩ unstarted
  exact ⟨safe.1.2, safe.2⟩

theorem dormant_of_shutdown {inst : Instance} (matched : inst.vrouter.fsm.Matched)
    {interface : NetworkInterface}
    (link : env.getInterface inst.vrouter.macVlanInterfaceV4 = .ok interface) :
    (inst.step env (.notify .shutdown)).1.Dormant ∧
      (inst.poisoned = false → (inst.step env (.notify .shutdown)).1.vrouter.fsm.state = .init) := by
  cases poisoned : inst.poisoned with
  | true =>
      rw [step_poisoned poisoned]
      exact ⟨.inl poisoned, fun sound => nomatch sound⟩
  | false =>
      have state := transition_shutdown (step_transition poisoned env (.notify .shutdown)) link
      exact ⟨.inr ⟨state, matched_step matched env _⟩, fun _ => state⟩

/-- In every state that an instance reaches the timer is the one of the election
state, a router in Init leaves it by `Startup` only, and after a `Shutdown` that finds
the mac-vlan the router stays where it is and advertises nothing until `Startup`. -/
theorem timer_matches_state (params : VirtualRouterParams) (primaryIp : Ipv4Addr)
    (macVlanInterfaceV4 : String) (macVlanInterfaceV6 : Option String)
    (primaryIpV6 : Option Ipv6Addr) {inst : Instance}
    (reachable : machine.Reachable
      (.new { VirtualRouter.new params with
        primaryIp, macVlanInterfaceV4, macVlanInterfaceV6, primaryIpV6 }) inst) :
    inst.vrouter.fsm.Matched ∧
      (inst.vrouter.fsm.state = .init → ∀ env input, input ≠ .notify .startup →
        (inst.step env input).1.vrouter.fsm.state = .init) ∧
      ∀ env interface, env.getInterface inst.vrouter.macVlanInterfaceV4 = .ok interface →
        (inst.poisoned = false →
          (inst.step env (.notify .shutdown)).1.vrouter.fsm.state = .init) ∧
        ∀ moments : List (Env × Input), (∀ moment ∈ moments, moment.2 ≠ .notify .startup) →
          (machine.after (inst.step env (.notify .shutdown)).1 moments).vrouter.fsm.state =
              (inst.step env (.notify .shutdown)).1.vrouter.fsm.state ∧
            ∀ effect ∈ machine.outputs (inst.step env (.notify .shutdown)).1 moments,
              ¬ effect.IsAdvertisement := by
  have matched : inst.vrouter.fsm.Matched := by
    apply machine.reachable_invariant (fun inst => inst.vrouter.fsm.Matched) _ _ reachable
    · exact fun inst moment matched => matched_step matched moment.1 moment.2
    · exact ⟨rfl, rfl⟩
  refine ⟨matched, ?_, ?_⟩
  · intro state env input unstarted
    exact (dormant_step (.inr ⟨state, matched⟩) env unstarted).2.1.trans state
  · intro env interface link
    have dormant := dormant_of_shutdown matched link
    exact ⟨dormant.2, fun moments unstarted => dormant_run dormant.1 unstarted⟩

/-- A Master that is shut down does not take over again, whatever it hears. -/
theorem shut_down_master_dormant :
    let master := machine.after (.new (Sample.router .v2 100 1))
      [(Sample.env 1 0 [] [], .notify .startup), (Sample.env 1 10 [] [], .tick)]
    let stopped := (master.step (Sample.env 1 11 [] []) (.notify .shutdown)).1
    let later := [(Sample.env 1 12 [] [], .vrrpV4 (Sample.router .v2 50 20).ipv4Advert),
      (Sample.env 1 20 [] [], .tick), (Sample.env 1 20 [] [], .notify .masterDown)]
    master.vrouter.fsm.state = .master ∧ master.vrouter.fsm.Matched ∧
      (machine.after stopped later).vrouter.fsm.state = .init ∧
      ∀ effect ∈ machine.outputs stopped later, ¬ effect.IsAdvertisement := by
  intro master stopped later
  have holds := timer_matches_state
    { name := "VR_1", vrid := 51, version := .v2
      ipv4Addresses := (Sample.router .v2 100 1).ipv4Addresses
      ipv6Addresses := [], priority := 100, advertInterval := 1, preemptMode := true
      networkInterface := "eth0" }
    (Sample.ipv4 1) (macVlanName "eth0" 51 .v4) none none
    (machine.reachable_after _
      [(Sample.env 1 0 [] [], .notify .startup), (Sample.env 1 10 [] [], .tick)])
  obtain ⟨matched, _, stops⟩ := holds
  obtain ⟨init, quiet⟩ := stops (Sample.env 1 11 [] [])
    { name := "fover4-51-9724", mac := some 0x00005e000133, ips := [] } (by decide +kernel)
  have after := quiet later (by simp [later])
  exact ⟨by decide +kernel, matched, after.1.trans (init (by decide +kernel)), after.2⟩

/-- A `Shutdown` whose lookup fails leaves the router Master, and the next tick after
its deadline advertises. -/
theorem failed_shutdown_advertises :
    let master := machine.after (.new (Sample.router .v2 255 1))
      [(Sample.env 1 0 [] [], .notify .startup)]
    let stopped := (master.step { interfaces := [], now := 0, setAt := 0 } (.notify .shutdown)).1
    stopped.vrouter.fsm.state = .master ∧
      ∃ effect ∈ machine.outputs stopped [(Sample.env 1 10 [] [], .tick)],
        effect.IsAdvertisement := by
  refine ⟨by decide +kernel, .sendVrrpPacketV4 (macVlanName "eth0" 51 .v4) (Sample.ipv4 1)
    ((Sample.router .v2 255 1).advertisement (.v4 (Sample.router .v2 255 1).ipv4Addrs)), ?_, trivial⟩
  decide +kernel

end Instance

end Failover
