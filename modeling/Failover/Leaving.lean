import Failover.Compatibility
import Failover.Takeover

/-!
# The priority of a router that leaves

Receivers read priority zero as the farewell of a Master. One routine builds every
advertisement, with the configured priority, also while `Shutdown` is handled.
-/

namespace Failover

open Library VirtualRouter

set_option autoImplicit false

def Effect.advertPriority : Effect → Option UInt8
  | .sendVrrpPacketV4 _ _ packet => some packet.priority
  | .sendVrrpPacketV6 _ _ packet => some packet.priority
  | _ => none

namespace Instance

def Leaves (inst : Instance) (input : Input) : Prop :=
  input = .notify .shutdown ∧ inst.vrouter.fsm.state = .master

/-- The advertisements of this step have priority zero exactly if the Master leaves. -/
def ZeroMeansLeaving (inst : Instance) (moment : Env × Input) : Prop :=
  ∀ effect ∈ (inst.step moment.1 moment.2).2, ∀ priority,
    effect.advertPriority = some priority → (priority = 0 ↔ inst.Leaves moment.2)

/-- A Backup of the same virtual router that gets a message of this step waits for
the skew time if the sender leaves, and never otherwise. -/
def PeersSeeLeaving (fromStr : String → Option IpNet) (conf : Config) (inst : Instance)
    (moment : Env × Input) : Prop :=
  ∀ (peer : Config) (parent : NetworkInterface) (primaryIp : Ipv4Addr) (listener : Instance),
    conf.SameVirtualRouter peer →
    machine.Reachable (new ((configToVr fromStr peer).prepare parent primaryIp)) listener →
    listener.poisoned = false → listener.vrouter.fsm.state = .backup →
    ∀ message ∈ (inst.step moment.1 moment.2).2.filterMap Effect.arrival,
      ∀ env, ¬ message.FromLocal env →
        let fsm := listener.vrouter.fsm
        let next := (listener.step env message).1.vrouter.fsm
        (inst.Leaves moment.2 →
          next = fsm.setMasterDownTimer env.setAt listener.vrouter.skewTime) ∧
        (¬ inst.Leaves moment.2 → next.state = .master ∨
          next = fsm.setMasterDownTimer env.setAt listener.vrouter.masterDownInterval)

/-- With the mac-vlan in place, no Master of a non-zero priority is shut down, and
no Backup of priority zero sees its deadline pass. -/
def AdvertisesTruly (inst : Instance) (moment : Env × Input) : Prop :=
  ∀ interface, moment.1.getInterface inst.vrouter.macVlanInterfaceV4 = .ok interface →
    if inst.vrouter.priority = 0 then
      inst.poisoned = false → inst.vrouter.fsm.state = .backup →
        ¬ Fires moment.1 inst.vrouter moment.2 .masterDown
    else ¬ inst.Leaves moment.2

instance (inst : Instance) (input : Input) : Decidable (inst.Leaves input) :=
  inferInstanceAs (Decidable (_ ∧ _))

instance (inst : Instance) (moment : Env × Input) : Decidable (inst.AdvertisesTruly moment) :=
  decidable_of_iff
    ((moment.1.getInterface inst.vrouter.macVlanInterfaceV4).toOption.isSome = true →
      if inst.vrouter.priority = 0 then
        inst.poisoned = false → inst.vrouter.fsm.state = .backup →
          ¬ Fires moment.1 inst.vrouter moment.2 .masterDown
      else ¬ inst.Leaves moment.2) <| by
    unfold AdvertisesTruly
    cases moment.1.getInterface inst.vrouter.macVlanInterfaceV4 with
    | error error => simp [Except.toOption]
    | ok interface => simp [Except.toOption]

end Instance

namespace VirtualRouter

theorem sent_priority {vrouter : VirtualRouter} {effect : Effect}
    (sent : effect ∈ vrouter.sendAdvertisement) :
    effect.advertPriority = some vrouter.priority := by
  rcases mem_send_advertisement.mp sent with rfl | ⟨iface, src, _, _, rfl⟩
  · rfl
  · rfl

theorem advert_priority_advertisement {effect : Effect} {priority : UInt8}
    (priced : effect.advertPriority = some priority) : effect.IsAdvertisement := by
  cases effect <;> trivial

theorem backup_after_hearing {env : Env} {vrouter next : VirtualRouter} {input : Input}
    {effects : List Effect} {panicked : Bool} {packet : VrrpPacket}
    (transition : Transition env vrouter input next effects panicked)
    (hears : vrouter.heard env input = some packet) (state : vrouter.fsm.state = .backup) :
    (packet.priority = 0 →
        next.fsm = vrouter.fsm.setMasterDownTimer env.setAt vrouter.skewTime) ∧
      (packet.priority ≠ 0 → next.fsm.state = .master ∨
        next.fsm = vrouter.fsm.setMasterDownTimer env.setAt vrouter.masterDownInterval) := by
  have notMaster (master : vrouter.fsm.state = .master) : False := by
    rw [state] at master
    contradiction
  cases (transition_hearing transition hears).1 with
  | stopped init => simp [state] at init
  | outranked master => exact (notMaster master).elim
  | hearsLeaving _ leaving => exact ⟨fun _ => rfl, fun positive => absurd leaving positive⟩
  | defers _ positive => exact ⟨fun leaving => absurd leaving positive, fun _ => .inr rfl⟩
  | preempts _ _ positive => exact ⟨fun leaving => absurd leaving positive, fun _ => .inl rfl⟩
  | answers master => exact (notMaster master).elim
  | yields _ _ master => exact (notMaster master).elim

theorem transition_sends_when {env : Env} {vrouter next : VirtualRouter} {input : Input}
    {effects : List Effect} {panicked : Bool}
    (transition : Transition env vrouter input next effects panicked) {effect : Effect}
    (member : effect ∈ effects) (advert : effect.IsAdvertisement) :
    (∃ event interface, Fires env vrouter input event ∧ vrouter.TakesOver event ∧
        env.getInterface vrouter.macVlanInterfaceV4 = .ok interface) ∨
      vrouter.fsm.state = .master ∨ vrouter.expired env .adver := by
  cases transition with
  | silent => contradiction
  | neighbor _ replies => exact absurd advert (neighbor_not_advertisement (replies effect member))
  | panics fires takes link => exact .inl ⟨_, _, fires, takes, link⟩
  | takesOver fires takes link => exact .inl ⟨_, _, fires, takes, link⟩
  | starts => exact absurd advert (virtual_addresses_send_nothing vrouter .delete effect member)
  | stopsInit => exact absurd advert (delete_mac_vlans_send_nothing vrouter effect member)
  | stopsBackup => exact absurd advert (delete_mac_vlans_send_nothing vrouter effect member)
  | stopsMaster _ _ state => exact .inr (.inl state)
  | advertises deadline => exact .inr (.inr deadline)
  | hearsLeaving => contradiction
  | defers => contradiction
  | preempts =>
      rw [List.mem_singleton.mp member] at advert
      exact advert.elim
  | answers _ state => exact .inr (.inl state)
  | yields =>
      rw [List.mem_singleton.mp member] at advert
      exact advert.elim

theorem become_master_sends (env : Env) (vrouter : VirtualRouter) (interface : NetworkInterface) :
    ∀ effect ∈ vrouter.sendAdvertisement,
      effect ∈ (vrouter.becomeMaster env interface).effects := by
  intro effect sent
  unfold becomeMaster
  split
  · exact sent
  · exact List.mem_append_left _ (List.mem_append_left _ sent)

/-- A Master that is shut down advertises, and so does a router that takes over,
also when it panics on the way. -/
theorem fires_sends {env : Env} {vrouter : VirtualRouter} {input : Input} {event : Event}
    {interface : NetworkInterface} (fires : Fires env vrouter input event)
    (acts : (event = .shutdown ∧ vrouter.fsm.state = .master) ∨ vrouter.TakesOver event)
    (link : env.getInterface vrouter.macVlanInterfaceV4 = .ok interface) :
    ∀ effect ∈ vrouter.sendAdvertisement, effect ∈ (vrouter.handle env input).effects := by
  intro effect sent
  rw [fires_handles fires]
  rcases acts with ⟨rfl, state⟩ | ⟨rfl, state, owner⟩ | ⟨rfl, state⟩
  · simp only [notifyMut, link, state]
    exact List.mem_append_left _ (List.mem_append_left _ sent)
  · simp only [notifyMut, link, if_pos state, if_pos owner]
    exact become_master_sends env vrouter interface effect sent
  · simp only [notifyMut, link, if_pos state]
    exact become_master_sends env vrouter interface effect sent

end VirtualRouter

namespace Instance

/-- What the steps of a run rely on: the configuration, the timer of the state, and
that nothing but `MasterDown` makes a router of priority zero Master. -/
structure NeverMasterAtZero (built : VirtualRouter) (inst : Instance) : Prop where
  runs : RunOf built inst
  matched : inst.vrouter.fsm.Matched
  idle : inst.vrouter.priority = 0 → inst.vrouter.fsm.state ≠ .master

theorem NeverMasterAtZero.next {built : VirtualRouter} {inst : Instance}
    (holds : NeverMasterAtZero built inst) {moment : Env × Input}
    (truly : inst.AdvertisesTruly moment) :
    NeverMasterAtZero built (inst.step moment.1 moment.2).1 := by
  cases poisoned : inst.poisoned with
  | true =>
      rw [step_poisoned poisoned]
      exact holds
  | false =>
      have transition := step_transition poisoned moment.1 moment.2
      rcases transition_config transition with ⟨fsm, config⟩
      constructor
      · exact run_of_step holds.runs moment.1 moment.2
      · exact transition_matched transition holds.matched
      · intro zero after
        have zeroNow : inst.vrouter.priority = 0 := by
          rw [config] at zero
          exact zero
        rcases transition_into_master transition (holds.idle zeroNow) after with
          ⟨event, interface, mac, fires, takes, link, _, _⟩ | ⟨packet, iface, _, lower, _⟩
        · have quiet := truly interface link
          rw [if_pos zeroNow] at quiet
          rcases takes with ⟨rfl, _, owner⟩ | ⟨rfl, state⟩
          · rw [zeroNow] at owner
            contradiction
          · exact quiet poisoned state fires
        · rw [zeroNow] at lower
          exact UInt8.not_lt_zero lower

theorem truly_of_zero_means_leaving {built : VirtualRouter} {inst : Instance}
    (runs : RunOf built inst) {moment : Env × Input} (marks : inst.ZeroMeansLeaving moment) :
    inst.AdvertisesTruly moment := by
  rcases moment with ⟨env, input⟩
  have priced : ∀ effect ∈ inst.vrouter.sendAdvertisement,
      effect.advertPriority = some inst.vrouter.priority := fun effect => sent_priority
  have first := mem_send_advertisement.mpr (.inl (Eq.refl (Effect.sendVrrpPacketV4
    inst.vrouter.macVlanInterfaceV4 inst.vrouter.primaryIp
    (inst.vrouter.advertisement (.v4 inst.vrouter.ipv4Addrs)))))
  intro interface link
  split
  · rename_i zero
    intro sound state fires
    have sent := fires_sends fires (.inr (.inr ⟨rfl, state⟩)) link _ first
    rw [← step_effects sound] at sent
    have master := ((marks _ sent _ (priced _ first)).mp zero).2
    rw [state] at master
    contradiction
  · rename_i positive
    intro leaves
    have sound := runs.sound_of_master leaves.2
    obtain rfl : input = .notify .shutdown := leaves.1
    have fires : Fires env inst.vrouter (.notify .shutdown) .shutdown := .notify .shutdown
    have sent := fires_sends fires (.inl ⟨rfl, leaves.2⟩) link _ first
    rw [← step_effects sound] at sent
    exact positive ((marks _ sent _ (priced _ first)).mpr leaves)

theorem zero_priority_silent {built : VirtualRouter} {inst : Instance}
    (holds : NeverMasterAtZero built inst) (sound : inst.poisoned = false)
    (zero : inst.vrouter.priority = 0) {moment : Env × Input}
    (truly : inst.AdvertisesTruly moment) {effect : Effect}
    (member : effect ∈ (inst.step moment.1 moment.2).2) : ¬ effect.IsAdvertisement := by
  intro advert
  have idle := holds.idle zero
  rcases transition_sends_when (step_transition sound moment.1 moment.2) member advert with
    ⟨event, interface, fires, takes, link⟩ | master | deadline
  · have quiet := truly interface link
    rw [if_pos zero] at quiet
    rcases takes with ⟨rfl, _, owner⟩ | ⟨rfl, state⟩
    · rw [zero] at owner
      contradiction
    · exact quiet sound state fires
  · exact idle master
  · exact idle (holds.matched.master deadline.1)

theorem zero_means_leaving_of_truly {built : VirtualRouter} {inst : Instance}
    (holds : NeverMasterAtZero built inst) {moment : Env × Input}
    (truly : inst.AdvertisesTruly moment) : inst.ZeroMeansLeaving moment := by
  intro effect member priority priced
  cases poisoned : inst.poisoned with
  | true =>
      rw [step_poisoned poisoned] at member
      contradiction
  | false =>
      have advert := advert_priority_advertisement priced
      have sent := transition_sends (step_transition poisoned moment.1 moment.2) effect member
        advert
      obtain rfl : inst.vrouter.priority = priority :=
        Option.some.inj ((sent_priority sent).symm.trans priced)
      by_cases zero : inst.vrouter.priority = 0
      · exact absurd advert (zero_priority_silent holds poisoned zero truly member)
      · apply iff_of_false zero
        intro leaves
        cases link : moment.1.getInterface inst.vrouter.macVlanInterfaceV4 with
        | error error =>
            rw [step_effects poisoned, leaves.1] at member
            simp [handle, notifyMut, link, Handled.failed] at member
        | ok interface =>
            have quiet := truly interface link
            rw [if_neg zero] at quiet
            exact quiet leaves

theorem peers_see_leaving {fromStr : String → Option IpNet} {configs : List Config}
    (accepted : validateConfigs fromStr configs = .ok ()) {conf : Config} (member : conf ∈ configs)
    {parent : NetworkInterface} {primaryIp : Ipv4Addr} {inst : Instance}
    (runs : RunOf ((configToVr fromStr conf).prepare parent primaryIp) inst)
    {moment : Env × Input} (marks : inst.ZeroMeansLeaving moment) :
    inst.PeersSeeLeaving fromStr conf moment := by
  intro peer peerParent peerIp listener same reachable sound state message sent env elsewhere
  have group := config_to_vr_same_group fromStr same parent peerParent primaryIp peerIp
  have senderSound : inst.poisoned = false := by
    by_contra poisoned
    rw [Bool.not_eq_false] at poisoned
    rw [step_poisoned poisoned] at sent
    contradiction
  have transition := step_transition senderSound moment.1 moment.2
  have built := transition_arrivals transition message sent
  rw [runs.adverts] at built
  rcases advert_heard group (config_to_vr_advertisable accepted member parent primaryIp)
    (prepared_of_valid accepted member parent primaryIp)
    (prepared_of_same accepted member same peerParent peerIp) (run_of_reachable reachable) built
    elsewhere with ⟨packet, hears, priority⟩
  rcases List.mem_filterMap.mp sent with ⟨effect, emitted, arrives⟩
  have advert := transition_sends transition effect emitted (arrival_advertisement arrives)
  have leaving := marks effect emitted inst.vrouter.priority (sent_priority advert)
  rw [runs.priority, ← priority] at leaving
  have after := backup_after_hearing (step_transition sound env message) hears state
  exact ⟨fun leaves => after.1 (leaving.mpr leaves),
    fun stays => after.2 (fun zero => stays (leaving.mp zero))⟩

end Instance

variable {fromStr : String → Option IpNet}

/-- Priority zero and its effect on the peers mark the leaving Master throughout a
run exactly when no Master of another priority is shut down and no Backup of
priority zero takes over. -/
theorem zero_priority_means_leaving_iff {configs : List Config}
    (accepted : validateConfigs fromStr configs = .ok ()) {conf : Config} (member : conf ∈ configs)
    (parent : NetworkInterface) (primaryIp : Ipv4Addr) (inputs : List (Env × Input)) :
    let start := Instance.new ((configToVr fromStr conf).prepare parent primaryIp)
    Instance.machine.AllSteps
        (fun inst moment => inst.ZeroMeansLeaving moment ∧
          inst.PeersSeeLeaving fromStr conf moment) start inputs ↔
      Instance.machine.AllSteps Instance.AdvertisesTruly start inputs := by
  intro start
  apply Instance.machine.all_steps_congr
    (Instance.NeverMasterAtZero ((configToVr fromStr conf).prepare parent primaryIp))
  · intro inst moment holds
    constructor
    · exact fun marks => Instance.truly_of_zero_means_leaving holds.runs marks.1
    · intro truly
      have marks := Instance.zero_means_leaving_of_truly holds truly
      exact ⟨marks, Instance.peers_see_leaving accepted member holds.runs marks⟩
  · exact fun inst moment holds truly => holds.next truly
  · exact ⟨Instance.run_of_new _, ⟨rfl, rfl⟩, fun _ => by
      simp [start, Instance.new, prepare, configToVr, VirtualRouter.new,
        VirtualRouterMachine.default]⟩

/-- A router that is Master for a while and is shut down as a Backup. -/
theorem yielding_master_marks_leaving :
    let moments := [(Sample.env 10 0 [] [], Input.notify .startup), (Sample.env 10 10 [] [], .tick),
      (Sample.env 10 11 [] [], .vrrpV4 (Sample.router .v2 150 20).ipv4Advert),
      (Sample.env 10 12 [] [], .notify .shutdown)]
    (Instance.machine.after (Instance.new (Sample.router .v2 100 10))
        (moments.take 2)).vrouter.fsm.state = .master ∧
      Instance.machine.AllSteps
        (fun inst moment => inst.ZeroMeansLeaving moment ∧
          inst.PeersSeeLeaving Sample.parseNet (Sample.config .v2 100) moment)
        (Instance.new (Sample.router .v2 100 10)) moments := by
  intro moments
  refine ⟨by decide +kernel, ?_⟩
  exact (@zero_priority_means_leaving_iff Sample.parseNet [Sample.config .v2 100] rfl
    (Sample.config .v2 100) List.mem_cons_self (Sample.parent 10) (Sample.ipv4 10) moments).mpr
    (by decide +kernel)

/-- A Master of priority 100 says goodbye with priority 100. -/
theorem shutdown_keeps_priority :
    validateConfigs Sample.parseNet [Sample.config .v2 100] = .ok () ∧
      ¬ Instance.machine.AllSteps Instance.ZeroMeansLeaving
        (Instance.new (Sample.router .v2 100 10))
        [(Sample.env 10 0 [] [], .notify .startup), (Sample.env 10 10 [] [], .tick),
          (Sample.env 10 11 [] [], .notify .shutdown)] := by
  refine ⟨rfl, fun marks => ?_⟩
  let router := Sample.router .v2 100 10
  have zero := marks.2.2.1
    (.sendVrrpPacketV4 router.macVlanInterfaceV4 router.primaryIp
      (router.advertisement (.v4 router.ipv4Addrs))) (by decide +kernel) 100 rfl
  exact absurd (zero.mpr ⟨rfl, by decide +kernel⟩) (by decide)

end Failover
