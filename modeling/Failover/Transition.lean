import Failover.Instance
import Failover.PacketRoundTrip

/-!
# What one step can do

The single inversion of the step function. `heard` is the packet that an input
carries past every check, `fires` the event it raises; each transition names the
guard it needs, and every invariant below is a case analysis over them.
-/

namespace Failover

open Library

set_option autoImplicit false

def VrrpAddresses.family : VrrpAddresses → AddressFamily
  | v4 _ => .v4
  | v6 _ => .v6

namespace VirtualRouter

def macVlan (vrouter : VirtualRouter) : AddressFamily → Option String
  | .v4 => some vrouter.macVlanInterfaceV4
  | .v6 => vrouter.macVlanInterfaceV6

def nets (vrouter : VirtualRouter) : AddressFamily → List IpNet
  | .v4 => vrouter.strIpv4Addresses
  | .v6 => vrouter.strIpv6Addresses

/-- The packet that passes the decoder and every check in front of the dispatch. -/
def accept (vrouter : VirtualRouter) (payload : List UInt8) (srcIp dstIp : IpAddr)
    (ttl : UInt8) : Option VrrpPacket :=
  match VrrpPacket.decode payload srcIp dstIp with
  | .ok packet =>
      match vrouter.verifyVrrpPacket packet ttl with
      | .ok () => if (vrouter.macVlan packet.addresses.family).isSome then some packet else none
      | .error _ => none
  | _ => none

/-- The packet an input brings to the dispatch, its source filter included. -/
def heard (env : Env) (vrouter : VirtualRouter) : Input → Option VrrpPacket
  | .vrrpV4 packet =>
      if env.isLocal (.v4 packet.source) then none
      else vrouter.accept packet.payload (.v4 packet.source) (.v4 packet.destination) packet.ttl
  | .vrrpV6 payload srcIp =>
      if env.isLocal (.v6 srcIp) then none
      else vrouter.accept payload (.v6 srcIp) (.v6 vrrpV6McastAddr) 255
  | _ => none

def expired (env : Env) (vrouter : VirtualRouter) (tType : TimerType) : Prop :=
  vrouter.fsm.timer.tType = tType ∧ ∃ waiting, vrouter.fsm.timer.waitingFor = some waiting ∧
    waiting < env.now

instance (env : Env) (vrouter : VirtualRouter) (tType : TimerType) :
    Decidable (vrouter.expired env tType) :=
  decidable_of_iff (vrouter.fsm.timer.tType = tType ∧
      vrouter.fsm.timer.waitingFor.any (fun waiting => waiting < env.now) = true)
    (and_congr_right fun _ => (Option.any_eq_true _ _).trans (by simp))

/-- The event an input hands to `notify_mut`. -/
inductive Fires (env : Env) (vrouter : VirtualRouter) : Input → Event → Prop
  | notify (event : Event) : Fires env vrouter (.notify event) event
  | tick (deadline : vrouter.expired env .masterDown) : Fires env vrouter .tick .masterDown

instance (env : Env) (vrouter : VirtualRouter) (input : Input) (event : Event) :
    Decidable (Fires env vrouter input event) :=
  decidable_of_iff (input = .notify event ∨
      input = .tick ∧ event = .masterDown ∧ vrouter.expired env .masterDown) <| by
    constructor
    · rintro (rfl | ⟨rfl, rfl, deadline⟩)
      · exact .notify event
      · exact .tick deadline
    · rintro (_ | deadline)
      · exact .inl rfl
      · exact .inr ⟨rfl, rfl, deadline⟩

def TakesOver (vrouter : VirtualRouter) (event : Event) : Prop :=
  (event = .startup ∧ vrouter.fsm.state = .init ∧ vrouter.priority = 255) ∨
    (event = .masterDown ∧ vrouter.fsm.state = .backup)

def Ignores (vrouter : VirtualRouter) (event : Event) : Prop :=
  (event = .startup ∧ vrouter.fsm.state ≠ .init) ∨
    (event = .masterDown ∧ vrouter.fsm.state ≠ .backup) ∨ event = .null

def masterFsm (env : Env) (vrouter : VirtualRouter) : VirtualRouterMachine :=
  (vrouter.fsm.setAdvertTimer env.setAt vrouter.advertInterval.toNat).setState .master

def backupFsm (env : Env) (vrouter : VirtualRouter) : VirtualRouterMachine :=
  (vrouter.fsm.setMasterDownTimer env.setAt vrouter.masterDownInterval).setState .backup

def initFsm (vrouter : VirtualRouter) : VirtualRouterMachine :=
  vrouter.fsm.disableTimer.setState .init

end VirtualRouter

open VirtualRouter

def Input.IsVrrp : Input → Prop
  | .vrrpV4 _ => True
  | .vrrpV6 _ _ => True
  | _ => False

def Input.IsNeighbor : Input → Prop
  | .arp _ => True
  | .ndp _ => True
  | _ => False

/-- Inputs that leave the router as it is and call nothing. -/
inductive Silent (env : Env) (vrouter : VirtualRouter) : Input → Prop
  | unheard {input : Input} (vrrp : input.IsVrrp) (nothing : vrouter.heard env input = none) :
      Silent env vrouter input
  | stopped {input : Input} {packet : VrrpPacket} (hears : vrouter.heard env input = some packet)
      (state : vrouter.fsm.state = .init) : Silent env vrouter input
  | outranked {input : Input} {packet : VrrpPacket}
      (hears : vrouter.heard env input = some packet) (state : vrouter.fsm.state = .master)
      (positive : packet.priority ≠ 0) (lower : packet.priority < vrouter.priority) :
      Silent env vrouter input
  | noLink {input : Input} {event : Event} {error : NetworkError}
      (fires : Fires env vrouter input event)
      (missing : env.getInterface vrouter.macVlanInterfaceV4 = .error error) :
      Silent env vrouter input
  | ignored {input : Input} {event : Event} {interface : NetworkInterface}
      (fires : Fires env vrouter input event)
      (link : env.getInterface vrouter.macVlanInterfaceV4 = .ok interface)
      (ignores : vrouter.Ignores event) : Silent env vrouter input
  | waits (masterDown : ¬ vrouter.expired env .masterDown) (adver : ¬ vrouter.expired env .adver) :
      Silent env vrouter .tick

/-- The router after the step, the calls made, and whether the handler panicked. -/
inductive Transition (env : Env) (vrouter : VirtualRouter) :
    Input → VirtualRouter → List Effect → Bool → Prop
  | silent {input : Input} (why : Silent env vrouter input) :
      Transition env vrouter input vrouter [] false
  | neighbor {input : Input} {effects : List Effect} (neighbor : input.IsNeighbor)
      (replies : ∀ effect ∈ effects, effect.IsNeighbor) :
      Transition env vrouter input vrouter effects false
  | panics {input : Input} {event : Event} {interface : NetworkInterface}
      (fires : Fires env vrouter input event) (takesOver : vrouter.TakesOver event)
      (link : env.getInterface vrouter.macVlanInterfaceV4 = .ok interface)
      (mac : interface.mac = none) :
      Transition env vrouter input vrouter vrouter.sendAdvertisement true
  | takesOver {input : Input} {event : Event} {interface : NetworkInterface} {mac : MacAddr}
      (fires : Fires env vrouter input event) (takesOver : vrouter.TakesOver event)
      (link : env.getInterface vrouter.macVlanInterfaceV4 = .ok interface)
      (found : interface.mac = some mac) :
      Transition env vrouter input (vrouter.withFsm (vrouter.masterFsm env))
        (vrouter.sendAdvertisement ++ vrouter.announceOwnership env mac ++
          vrouter.addVirtualAddresses) false
  | starts {input : Input} {interface : NetworkInterface}
      (fires : Fires env vrouter input .startup)
      (link : env.getInterface vrouter.macVlanInterfaceV4 = .ok interface)
      (state : vrouter.fsm.state = .init) (notOwner : vrouter.priority ≠ 255) :
      Transition env vrouter input (vrouter.withFsm (vrouter.backupFsm env))
        vrouter.deleteVirtualAddresses false
  | stopsInit {input : Input} {interface : NetworkInterface}
      (fires : Fires env vrouter input .shutdown)
      (link : env.getInterface vrouter.macVlanInterfaceV4 = .ok interface)
      (state : vrouter.fsm.state = .init) :
      Transition env vrouter input vrouter vrouter.deleteMacVlans false
  | stopsBackup {input : Input} {interface : NetworkInterface}
      (fires : Fires env vrouter input .shutdown)
      (link : env.getInterface vrouter.macVlanInterfaceV4 = .ok interface)
      (state : vrouter.fsm.state = .backup) :
      Transition env vrouter input (vrouter.withFsm vrouter.initFsm) vrouter.deleteMacVlans false
  | stopsMaster {input : Input} {interface : NetworkInterface}
      (fires : Fires env vrouter input .shutdown)
      (link : env.getInterface vrouter.macVlanInterfaceV4 = .ok interface)
      (state : vrouter.fsm.state = .master) :
      Transition env vrouter input (vrouter.withFsm vrouter.initFsm)
        (vrouter.sendAdvertisement ++ vrouter.deleteVirtualAddresses ++ vrouter.deleteMacVlans)
        false
  | advertises (deadline : vrouter.expired env .adver) :
      Transition env vrouter .tick
        (vrouter.withFsm (vrouter.fsm.setAdvertTimer env.setAt vrouter.advertInterval.toNat))
        vrouter.sendAdvertisement false
  | hearsLeaving {input : Input} {packet : VrrpPacket}
      (hears : vrouter.heard env input = some packet) (state : vrouter.fsm.state = .backup)
      (leaving : packet.priority = 0) :
      Transition env vrouter input
        (vrouter.withFsm (vrouter.fsm.setMasterDownTimer env.setAt vrouter.skewTime)) [] false
  | defers {input : Input} {packet : VrrpPacket}
      (hears : vrouter.heard env input = some packet) (state : vrouter.fsm.state = .backup)
      (positive : packet.priority ≠ 0)
      (superior : vrouter.preemptMode = false ∨ vrouter.priority ≤ packet.priority) :
      Transition env vrouter input
        (vrouter.withFsm (vrouter.fsm.setMasterDownTimer env.setAt vrouter.masterDownInterval))
        [] false
  | preempts {input : Input} {packet : VrrpPacket} {iface : String}
      (hears : vrouter.heard env input = some packet)
      (link : vrouter.macVlan packet.addresses.family = some iface)
      (state : vrouter.fsm.state = .backup) (positive : packet.priority ≠ 0)
      (preempt : vrouter.preemptMode = true) (lower : packet.priority < vrouter.priority) :
      Transition env vrouter input (vrouter.withFsm (vrouter.masterFsm env))
        [.virtualAddressAction .add (vrouter.nets packet.addresses.family) iface] false
  | answers {input : Input} {packet : VrrpPacket}
      (hears : vrouter.heard env input = some packet) (state : vrouter.fsm.state = .master)
      (leaving : packet.priority = 0) :
      Transition env vrouter input
        (vrouter.withFsm (vrouter.fsm.setAdvertTimer env.setAt vrouter.advertInterval.toNat))
        vrouter.sendAdvertisement false
  | yields {input : Input} {packet : VrrpPacket} {iface : String} (event : Event)
      (hears : vrouter.heard env input = some packet)
      (link : vrouter.macVlan packet.addresses.family = some iface)
      (state : vrouter.fsm.state = .master) (positive : packet.priority ≠ 0)
      (superior : vrouter.priority ≤ packet.priority) :
      Transition env vrouter input (vrouter.withFsm ((vrouter.backupFsm env).setEvent event))
        [.virtualAddressAction .delete (vrouter.nets packet.addresses.family) iface] false

namespace VirtualRouter

theorem family_addresses_eq (vrouter : VirtualRouter) (addresses : VrrpAddresses) :
    vrouter.familyAddresses addresses =
      (vrouter.macVlan addresses.family).map fun iface =>
        (iface, vrouter.nets addresses.family) := by
  cases addresses with
  | v4 addrs => rfl
  | v6 addrs =>
      simp only [familyAddresses, macVlan, nets, VrrpAddresses.family]
      cases vrouter.macVlanInterfaceV6 <;> rfl

theorem virtual_address_of_mem {vrouter : VirtualRouter} {action : AddressAction}
    {effect : Effect} (member : effect ∈ vrouter.virtualAddresses action) :
    ∃ family iface, vrouter.macVlan family = some iface ∧
      effect = .virtualAddressAction action (vrouter.nets family) iface := by
  unfold virtualAddresses at member
  rcases List.mem_cons.mp member with rfl | member
  · exact ⟨.v4, _, rfl, rfl⟩
  · split at member
    · rename_i v6Iface link
      exact ⟨.v6, v6Iface, link, List.mem_singleton.mp member⟩
    · contradiction

theorem deletion_of_mem {vrouter : VirtualRouter} {effect : Effect}
    (member : effect ∈ vrouter.deleteMacVlans) :
    ∃ family iface, vrouter.macVlan family = some iface ∧ effect = .deleteMacVlan iface := by
  unfold deleteMacVlans at member
  rcases List.mem_cons.mp member with rfl | member
  · exact ⟨.v4, _, rfl, rfl⟩
  · split at member
    · rename_i v6Iface link
      exact ⟨.v6, v6Iface, link, List.mem_singleton.mp member⟩
    · contradiction

theorem take_over_calls {env : Env} {vrouter : VirtualRouter} {mac : MacAddr} {effect : Effect}
    (member : effect ∈ vrouter.sendAdvertisement ++ vrouter.announceOwnership env mac ++
      vrouter.addVirtualAddresses) :
    effect ∈ vrouter.sendAdvertisement ∨ effect.IsNeighbor ∨
      effect ∈ vrouter.addVirtualAddresses := by
  rcases List.mem_append.mp member with sent | added
  · rcases List.mem_append.mp sent with advert | announced
    · exact .inl advert
    · exact .inr (.inl (announce_ownership_neighbor env vrouter mac effect announced))
  · exact .inr (.inr added)

theorem shutdown_calls {vrouter : VirtualRouter} {effect : Effect}
    (member : effect ∈ vrouter.sendAdvertisement ++ vrouter.deleteVirtualAddresses ++
      vrouter.deleteMacVlans) :
    effect ∈ vrouter.sendAdvertisement ∨ effect ∈ vrouter.deleteVirtualAddresses ∨
      effect ∈ vrouter.deleteMacVlans := by
  rcases List.mem_append.mp member with edit | deletion
  · exact (List.mem_append.mp edit).imp_right .inl
  · exact .inr (.inr deletion)

theorem process_unaccepted (env : Env) {vrouter : VirtualRouter} {payload : List UInt8}
    {srcIp dstIp : IpAddr} {ttl : UInt8}
    (dropped : vrouter.accept payload srcIp dstIp ttl = none) :
    vrouter.processVrrpPacket env payload srcIp dstIp ttl = .unchanged vrouter := by
  unfold accept at dropped
  unfold processVrrpPacket
  cases decoded : VrrpPacket.decode payload srcIp dstIp with
  | panicked => exact absurd decoded (VrrpPacket.decode_ne_panicked _ _ _)
  | err error => rfl
  | ok packet =>
      simp only [decoded] at dropped
      cases verified : vrouter.verifyVrrpPacket packet ttl with
      | error error => simp only [verified]
      | ok passed =>
          simp only [verified] at dropped
          cases link : vrouter.macVlan packet.addresses.family with
          | some iface => simp [link] at dropped
          | none => simp [verified, family_addresses_eq, link]

theorem process_accepted (env : Env) {vrouter : VirtualRouter} {payload : List UInt8}
    {srcIp dstIp : IpAddr} {ttl : UInt8} {packet : VrrpPacket}
    (accepted : vrouter.accept payload srcIp dstIp ttl = some packet) :
    ∃ iface, vrouter.macVlan packet.addresses.family = some iface ∧
      vrouter.processVrrpPacket env payload srcIp dstIp ttl =
        vrouter.dispatchVrrpPacket env packet iface (vrouter.nets packet.addresses.family) := by
  unfold accept at accepted
  unfold processVrrpPacket
  cases decoded : VrrpPacket.decode payload srcIp dstIp with
  | panicked => simp [decoded] at accepted
  | err error => simp [decoded] at accepted
  | ok decodedPacket =>
      simp only [decoded] at accepted
      cases verified : vrouter.verifyVrrpPacket decodedPacket ttl with
      | error error => simp [verified] at accepted
      | ok passed =>
          simp only [verified] at accepted
          cases link : vrouter.macVlan decodedPacket.addresses.family with
          | none => simp [link] at accepted
          | some iface =>
              simp only [link, Option.isSome_some, if_true, Option.some.injEq] at accepted
              subst accepted
              exact ⟨iface, link, by simp [verified, family_addresses_eq, link]⟩

theorem before_notify_null (env : Env) (vrouter : VirtualRouter) (effects : List Effect) :
    ((vrouter.notifyMut env .null).before effects).vrouter = vrouter ∧
      ((vrouter.notifyMut env .null).before effects).effects = effects ∧
      ((vrouter.notifyMut env .null).before effects).panics = false := by
  unfold notifyMut
  split <;> exact ⟨rfl, List.append_nil effects, rfl⟩

theorem dispatch_transition (env : Env) (vrouter : VirtualRouter) {input : Input}
    {packet : VrrpPacket} {iface : String} (hears : vrouter.heard env input = some packet)
    (link : vrouter.macVlan packet.addresses.family = some iface) :
    let handled := vrouter.dispatchVrrpPacket env packet iface
      (vrouter.nets packet.addresses.family)
    Transition env vrouter input handled.vrouter handled.effects handled.panics := by
  cases state : vrouter.fsm.state with
  | init =>
      simp only [dispatchVrrpPacket, state]
      exact .silent (.stopped hears state)
  | backup =>
      simp only [dispatchVrrpPacket, state]
      by_cases leaving : packet.priority = 0
      · simp only [if_pos leaving]
        exact .hearsLeaving hears state leaving
      simp only [if_neg leaving]
      by_cases superior : vrouter.preemptMode = false ∨ vrouter.priority ≤ packet.priority
      · simp only [if_pos superior]
        exact .defers hears state leaving superior
      simp only [if_neg superior]
      rw [not_or, Bool.not_eq_false, UInt8.not_le] at superior
      simp only [if_pos superior.2]
      exact .preempts hears link state leaving superior.1 superior.2
  | master =>
      simp only [dispatchVrrpPacket, state]
      by_cases leaving : packet.priority = 0
      · simp only [if_pos leaving]
        exact .answers hears state leaving
      simp only [if_neg leaving]
      by_cases greater : vrouter.priority < packet.priority
      · obtain ⟨same, calls, calm⟩ := before_notify_null env
          (vrouter.withFsm ((vrouter.fsm.setMasterDownTimer env.setAt
            vrouter.masterDownInterval).setState .backup))
          [.virtualAddressAction .delete (vrouter.nets packet.addresses.family) iface]
        simp only [if_pos greater]
        rw [same, calls, calm]
        exact .yields vrouter.fsm.event hears link state leaving
          (UInt8.le_of_lt greater)
      simp only [if_neg greater]
      by_cases equal : packet.priority = vrouter.priority
      · obtain ⟨same, calls, calm⟩ := before_notify_null env
          (vrouter.withFsm (((vrouter.fsm.setMasterDownTimer env.setAt
            vrouter.masterDownInterval).setState .backup).setEvent .null))
          [.virtualAddressAction .delete (vrouter.nets packet.addresses.family) iface]
        simp only [if_pos equal]
        rw [same, calls, calm]
        exact .yields .null hears link state leaving (UInt8.le_of_eq equal.symm)
      simp only [if_neg equal]
      have lower : packet.priority < vrouter.priority := by
        rw [UInt8.lt_iff_toNat_lt] at greater ⊢
        have different : packet.priority.toNat ≠ vrouter.priority.toNat :=
          fun same => equal (UInt8.toNat_inj.mp same)
        omega
      exact .silent (.outranked hears state leaving lower)

theorem become_master_transition (env : Env) (vrouter : VirtualRouter) {input : Input}
    {event : Event} {interface : NetworkInterface} (fires : Fires env vrouter input event)
    (takesOver : vrouter.TakesOver event)
    (link : env.getInterface vrouter.macVlanInterfaceV4 = .ok interface) :
    let handled := vrouter.becomeMaster env interface
    Transition env vrouter input handled.vrouter handled.effects handled.panics := by
  cases found : interface.mac with
  | none =>
      simp only [becomeMaster, found]
      exact .panics fires takesOver link found
  | some mac =>
      simp only [becomeMaster, found]
      exact .takesOver fires takesOver link found

theorem notify_transition (env : Env) (vrouter : VirtualRouter) {input : Input} {event : Event}
    (fires : Fires env vrouter input event) :
    let handled := vrouter.notifyMut env event
    Transition env vrouter input handled.vrouter handled.effects handled.panics := by
  cases link : env.getInterface vrouter.macVlanInterfaceV4 with
  | error error =>
      simp only [notifyMut, link]
      exact .silent (.noLink fires link)
  | ok interface =>
      cases event with
      | startup =>
          simp only [notifyMut, link]
          by_cases state : vrouter.fsm.state = .init
          · simp only [if_pos state]
            by_cases owner : vrouter.priority = 255
            · simp only [if_pos owner]
              exact become_master_transition env vrouter fires (.inl ⟨rfl, state, owner⟩) link
            · simp only [if_neg owner]
              exact .starts fires link state owner
          · simp only [if_neg state]
            exact .silent (.ignored fires link (.inl ⟨rfl, state⟩))
      | shutdown =>
          cases state : vrouter.fsm.state with
          | init =>
              simp only [notifyMut, link, state]
              exact .stopsInit fires link state
          | backup =>
              simp only [notifyMut, link, state]
              exact .stopsBackup fires link state
          | master =>
              simp only [notifyMut, link, state]
              exact .stopsMaster fires link state
      | masterDown =>
          simp only [notifyMut, link]
          by_cases state : vrouter.fsm.state = .backup
          · simp only [if_pos state]
            exact become_master_transition env vrouter fires (.inr ⟨rfl, state⟩) link
          · simp only [if_neg state]
            exact .silent (.ignored fires link (.inr (.inl ⟨rfl, state⟩)))
      | null =>
          simp only [notifyMut, link]
          exact .silent (.ignored fires link (.inr (.inr rfl)))

theorem tick_transition (env : Env) (vrouter : VirtualRouter) :
    let handled := vrouter.timerTick env
    Transition env vrouter .tick handled.vrouter handled.effects handled.panics := by
  cases tType : vrouter.fsm.timer.tType with
  | null =>
      simp only [timerTick, tType]
      exact .silent (.waits (by simp [expired, tType]) (by simp [expired, tType]))
  | masterDown =>
      cases deadline : vrouter.fsm.timer.waitingFor with
      | none =>
          simp only [timerTick, tType, deadline]
          exact .silent (.waits (by simp [expired, deadline]) (by simp [expired, deadline]))
      | some waiting =>
          simp only [timerTick, tType, deadline]
          by_cases passed : waiting < env.now
          · simp only [if_pos passed]
            exact notify_transition env vrouter (.tick ⟨tType, waiting, deadline, passed⟩)
          · simp only [if_neg passed]
            exact .silent (.waits (by simp [expired, deadline, passed]) (by simp [expired, tType]))
  | adver =>
      cases deadline : vrouter.fsm.timer.waitingFor with
      | none =>
          simp only [timerTick, tType, deadline]
          exact .silent (.waits (by simp [expired, deadline]) (by simp [expired, deadline]))
      | some waiting =>
          simp only [timerTick, tType, deadline]
          by_cases passed : waiting < env.now
          · simp only [if_pos passed]
            exact .advertises ⟨tType, waiting, deadline, passed⟩
          · simp only [if_neg passed]
            exact .silent (.waits (by simp [expired, tType]) (by simp [expired, deadline, passed]))

theorem vrrp_v4_transition (env : Env) (vrouter : VirtualRouter) (packet : Ipv4Packet) :
    let handled := vrouter.handleIncomingVrrpV4Pkt env packet
    Transition env vrouter (.vrrpV4 packet) handled.vrouter handled.effects handled.panics := by
  by_cases own : env.isLocal (.v4 packet.source) = true
  · simp only [handleIncomingVrrpV4Pkt, if_pos own]
    exact .silent (.unheard trivial (by simp [heard, own]))
  simp only [handleIncomingVrrpV4Pkt, if_neg own]
  have same : vrouter.heard env (.vrrpV4 packet) = vrouter.accept packet.payload
      (.v4 packet.source) (.v4 packet.destination) packet.ttl := by
    simp only [heard, if_neg own]
  cases accepted : vrouter.accept packet.payload (.v4 packet.source) (.v4 packet.destination)
      packet.ttl with
  | none =>
      rw [process_unaccepted env accepted]
      exact .silent (.unheard trivial (same.trans accepted))
  | some heardPacket =>
      obtain ⟨iface, link, processed⟩ := process_accepted env accepted
      rw [processed]
      exact dispatch_transition env vrouter (same.trans accepted) link

theorem vrrp_v6_transition (env : Env) (vrouter : VirtualRouter) (payload : List UInt8)
    (srcIp : Ipv6Addr) :
    let handled := vrouter.handleIncomingVrrpV6Pkt env payload srcIp
    Transition env vrouter (.vrrpV6 payload srcIp) handled.vrouter handled.effects
      handled.panics := by
  by_cases own : env.isLocal (.v6 srcIp) = true
  · simp only [handleIncomingVrrpV6Pkt, if_pos own]
    exact .silent (.unheard trivial (by simp [heard, own]))
  simp only [handleIncomingVrrpV6Pkt, if_neg own]
  have same : vrouter.heard env (.vrrpV6 payload srcIp) =
      vrouter.accept payload (.v6 srcIp) (.v6 vrrpV6McastAddr) 255 := by
    simp only [heard, if_neg own]
  cases accepted : vrouter.accept payload (.v6 srcIp) (.v6 vrrpV6McastAddr) 255 with
  | none =>
      rw [process_unaccepted env accepted]
      exact .silent (.unheard trivial (same.trans accepted))
  | some heardPacket =>
      obtain ⟨iface, link, processed⟩ := process_accepted env accepted
      rw [processed]
      exact dispatch_transition env vrouter (same.trans accepted) link

theorem arp_decode_ne_panicked (data : List UInt8) : ArpPacket.decode data ≠ .panicked := by
  by_cases length : data.length = 28
  · simp (disch := (simp only [List.length_drop, length]; decide)) only [ArpPacket.decode, length,
      ne_eq, not_true_eq_false, if_false, get_uint_of_le, get_u8_of_pos, Outcome.ok_bind]
    simp
  · simp [ArpPacket.decode, length]

theorem ndp_decode_ne_panicked (data : List UInt8) :
    NdpNeighborSolicitation.decode data ≠ .panicked := by
  unfold NdpNeighborSolicitation.decode
  split
  · simp
  rename_i long
  cases data with
  | nil => simp at long
  | cons type rest =>
      have enough : 16 ≤ ((type :: rest).drop 8).length := by
        simp only [List.length_cons, List.length_drop] at long ⊢
        omega
      simp only [get_u8_cons, Outcome.ok_bind, getUint, getBytes, if_pos enough]
      split <;> simp

theorem arp_transition (env : Env) (vrouter : VirtualRouter) (packet : EthernetPacket) :
    let handled := vrouter.handleIncomingArpPkt env packet
    Transition env vrouter (.arp packet) handled.vrouter handled.effects handled.panics := by
  have quiet : Transition env vrouter (.arp packet) vrouter [] false :=
    .neighbor trivial (by simp)
  unfold handleIncomingArpPkt
  split
  · exact quiet
  split
  · rename_i panicked
    exact absurd panicked (arp_decode_ne_panicked _)
  · exact quiet
  split
  · exact quiet
  split
  · exact quiet
  · exact quiet
  split
  · exact quiet
  · refine .neighbor trivial ?_
    intro effect member
    obtain ⟨ip, _, rfl⟩ := List.mem_map.mp member
    trivial

theorem ndp_transition (env : Env) (vrouter : VirtualRouter) (payload : List UInt8) :
    let handled := vrouter.handleIncomingNdpPkt env payload
    Transition env vrouter (.ndp payload) handled.vrouter handled.effects handled.panics := by
  have quiet : Transition env vrouter (.ndp payload) vrouter [] false :=
    .neighbor trivial (by simp)
  unfold handleIncomingNdpPkt
  split
  · exact quiet
  split
  · exact quiet
  split
  · rename_i panicked
    exact absurd panicked (ndp_decode_ne_panicked _)
  · exact quiet
  split
  · exact quiet
  split
  · exact quiet
  split
  · exact quiet
  · refine .neighbor trivial ?_
    intro effect member
    rw [List.mem_singleton.mp member]
    trivial

theorem handle_transition (env : Env) (vrouter : VirtualRouter) (input : Input) :
    let handled := vrouter.handle env input
    Transition env vrouter input handled.vrouter handled.effects handled.panics := by
  cases input with
  | notify event => exact notify_transition env vrouter (.notify event)
  | tick => exact tick_transition env vrouter
  | vrrpV4 packet => exact vrrp_v4_transition env vrouter packet
  | vrrpV6 payload srcIp => exact vrrp_v6_transition env vrouter payload srcIp
  | arp packet => exact arp_transition env vrouter packet
  | ndp payload => exact ndp_transition env vrouter payload

end VirtualRouter

namespace Instance

theorem step_poisoned {inst : Instance} (poisoned : inst.poisoned = true) (env : Env)
    (input : Input) : inst.step env input = (inst, []) := by
  simp [step, poisoned]

theorem step_effects {inst : Instance} (sound : inst.poisoned = false) (env : Env)
    (input : Input) : (inst.step env input).2 = (inst.vrouter.handle env input).effects := by
  simp [step, sound]

theorem step_of_idle {inst : Instance} {env : Env} {input : Input}
    (idle : inst.poisoned = false → (inst.vrouter.handle env input).Idle inst.vrouter) :
    inst.step env input = (inst, []) := by
  cases poisoned : inst.poisoned with
  | true => exact step_poisoned poisoned env input
  | false =>
      obtain ⟨same, nothing, calm⟩ := idle poisoned
      simp only [step, poisoned, Bool.false_eq_true, if_false, nothing]
      exact Prod.ext (Instance.ext same (calm.trans poisoned.symm)) rfl

/-- A step of an instance whose lock is sound is a transition of its router. -/
theorem step_transition {inst : Instance} (sound : inst.poisoned = false) (env : Env)
    (input : Input) :
    Transition env inst.vrouter input (inst.step env input).1.vrouter (inst.step env input).2
      (inst.step env input).1.poisoned := by
  have transition := VirtualRouter.handle_transition env inst.vrouter input
  simpa only [step, sound, Bool.false_eq_true, if_false] using transition

end Instance

end Failover
