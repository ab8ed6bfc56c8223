import Failover.Invariants

/-!
# What a router calls

Whatever a step calls for concerns the mac-vlans, the addresses and the virtual MAC
addresses of its own router, and nothing is sent except by a Master.
-/

namespace Failover

open Library VirtualRouter

set_option autoImplicit false

def Effect.IsSent (effect : Effect) : Prop := effect.IsAdvertisement ∨ effect.IsNeighbor

/-- The call is about what this router is configured with. A frame or a Neighbor
Advertisement binds one of its addresses to its virtual MAC address. -/
def Effect.Within (vrouter : VirtualRouter) : Effect → Prop
  | .virtualAddressAction _ addresses iface =>
      ∃ family, vrouter.macVlan family = some iface ∧ addresses = vrouter.nets family
  | .deleteMacVlan iface => ∃ family, vrouter.macVlan family = some iface
  | .sendVrrpPacketV4 iface srcIp packet =>
      vrouter.macVlan .v4 = some iface ∧ srcIp = vrouter.primaryIp ∧
        packet = vrouter.advertisement (.v4 vrouter.ipv4Addrs)
  | .sendVrrpPacketV6 iface srcIp packet =>
      vrouter.macVlan .v6 = some iface ∧ vrouter.primaryIpV6 = some srcIp ∧
        packet = vrouter.advertisement (.v6 vrouter.ipv6Addrs)
  | .sendPacketArp iface frame =>
      vrouter.macVlan .v4 = some iface ∧ frame.senderProtoAddr ∈ vrouter.ipv4Addrs ∧
        frame.senderHwAddr = frame.srcMac ∧
          octets frame.srcMac = AddressFamily.v4.virtualMac vrouter.vrid
  | .sendNeighborAdvertisement iface targetAddr na =>
      vrouter.macVlan .v6 = some iface ∧ targetAddr ∈ vrouter.ipv6Addrs ∧
        na.targetAddress = targetAddr ∧
          octets na.targetLinkAddr = AddressFamily.v6.virtualMac vrouter.vrid

namespace VirtualRouter

def SeesVirtualMacs (env : Env) (vrouter : VirtualRouter) : Prop :=
  ∀ family iface interface, vrouter.macVlan family = some iface →
    env.getInterface iface = .ok interface →
      ∃ mac, interface.mac = some mac ∧ octets mac = family.virtualMac vrouter.vrid

variable {env : Env} {vrouter next : VirtualRouter} {input : Input} {effects : List Effect}
  {panicked : Bool}

theorem SeesVirtualMacs.virtual (sees : vrouter.SeesVirtualMacs env) (family : AddressFamily)
    {iface : String} (side : vrouter.macVlan family = some iface) {interface : NetworkInterface}
    (link : env.getInterface iface = .ok interface) {mac : MacAddr}
    (found : interface.mac = some mac) : octets mac = family.virtualMac vrouter.vrid := by
  obtain ⟨shown, same, virtual⟩ := sees family iface interface side link
  rw [found, Option.some.injEq] at same
  rw [same]
  exact virtual

theorem send_advertisement_within :
    ∀ effect ∈ vrouter.sendAdvertisement, effect.Within vrouter := by
  intro effect member
  rcases mem_send_advertisement.mp member with rfl | ⟨iface, src, side, source, rfl⟩
  · exact ⟨rfl, rfl, rfl⟩
  · exact ⟨side, source, rfl⟩

theorem virtual_addresses_within (action : AddressAction) :
    ∀ effect ∈ vrouter.virtualAddresses action, effect.Within vrouter := by
  intro effect member
  obtain ⟨family, iface, side, rfl⟩ := virtual_address_of_mem member
  exact ⟨family, side, rfl⟩

theorem delete_mac_vlans_within :
    ∀ effect ∈ vrouter.deleteMacVlans, effect.Within vrouter := by
  intro effect member
  obtain ⟨family, iface, side, rfl⟩ := deletion_of_mem member
  exact ⟨family, side⟩

theorem announce_ownership_within (sees : vrouter.SeesVirtualMacs env)
    {interface : NetworkInterface}
    (link : env.getInterface vrouter.macVlanInterfaceV4 = .ok interface) {mac : MacAddr}
    (found : interface.mac = some mac) :
    ∀ effect ∈ vrouter.announceOwnership env mac, effect.Within vrouter := by
  intro effect member
  rcases List.mem_append.mp member with arp | na
  · obtain ⟨ip, configured, rfl⟩ := List.mem_map.mp arp
    exact ⟨rfl, configured, rfl, sees.virtual .v4 rfl link found⟩
  · split at na
    · rename_i v6Mac shown
      unfold v6InterfaceMac at shown
      split at shown
      · contradiction
      rename_i v6Iface side
      split at shown
      · contradiction
      rename_i v6Interface v6Link
      simp only [sendNeighborAdvertisements, side] at na
      obtain ⟨ip, configured, rfl⟩ := List.mem_map.mp na
      exact ⟨side, configured, rfl, sees.virtual .v6 side v6Link shown⟩
    · contradiction

theorem arp_within (sees : vrouter.SeesVirtualMacs env) (packet : EthernetPacket) :
    ∀ effect ∈ (vrouter.handleIncomingArpPkt env packet).effects,
      effect.Within vrouter ∧ vrouter.fsm.state = .master := by
  intro effect member
  unfold handleIncomingArpPkt at member
  split at member
  · contradiction
  rename_i interface link
  split at member
  · contradiction
  · contradiction
  split at member
  · contradiction
  rename_i mac found
  split at member
  · contradiction
  · contradiction
  rename_i master
  split at member
  · contradiction
  obtain ⟨ip, requested, rfl⟩ := List.mem_map.mp member
  have virtual := sees.virtual .v4 rfl link found
  simp only [List.mem_filter, decide_eq_true_eq] at requested
  rw [(get_interface_ok link).2]
  refine ⟨⟨rfl, ?_, rfl, virtual⟩, master⟩
  change ArpPacket.targetProtoAddress _ ∈ _
  rw [← requested.2]
  exact requested.1

theorem ndp_within (sees : vrouter.SeesVirtualMacs env) (payload : List UInt8) :
    ∀ effect ∈ (vrouter.handleIncomingNdpPkt env payload).effects,
      effect.Within vrouter ∧ vrouter.fsm.state = .master := by
  intro effect member
  unfold handleIncomingNdpPkt at member
  split at member
  · contradiction
  rename_i v6Iface side
  split at member
  · contradiction
  rename_i master
  split at member
  · contradiction
  · contradiction
  rename_i ns decoded
  split at member
  · contradiction
  rename_i configured
  split at member
  · contradiction
  rename_i interface link
  split at member
  · contradiction
  rename_i mac found
  obtain rfl := List.mem_singleton.mp member
  have virtual := sees.virtual .v6 side link found
  simp only [List.any_eq_false, decide_eq_true_eq, not_forall, not_not] at configured
  obtain ⟨ip, listed, rfl⟩ := configured
  exact ⟨⟨side, listed, rfl, virtual⟩, not_not.mp master⟩

theorem transition_within (transition : Transition env vrouter input next effects panicked)
    (other : ¬ input.IsNeighbor) (sees : vrouter.SeesVirtualMacs env) :
    ∀ effect ∈ effects, effect.Within vrouter := by
  intro effect member
  cases transition with
  | silent => contradiction
  | neighbor neighbor => exact absurd neighbor other
  | panics => exact send_advertisement_within effect member
  | takesOver fires takesOver link found =>
      rcases List.mem_append.mp member with sent | added
      · rcases List.mem_append.mp sent with advert | announced
        · exact send_advertisement_within effect advert
        · exact announce_ownership_within sees link found effect announced
      · exact virtual_addresses_within .add effect added
  | starts => exact virtual_addresses_within .delete effect member
  | stopsInit => exact delete_mac_vlans_within effect member
  | stopsBackup => exact delete_mac_vlans_within effect member
  | stopsMaster =>
      rcases shutdown_calls member with advert | removed | deleted
      · exact send_advertisement_within effect advert
      · exact virtual_addresses_within .delete effect removed
      · exact delete_mac_vlans_within effect deleted
  | advertises => exact send_advertisement_within effect member
  | hearsLeaving => contradiction
  | defers => contradiction
  | preempts hears link =>
      obtain rfl := List.mem_singleton.mp member
      exact ⟨_, link, rfl⟩
  | answers => exact send_advertisement_within effect member
  | yields event hears link =>
      obtain rfl := List.mem_singleton.mp member
      exact ⟨_, link, rfl⟩

theorem edit_not_sent {effect : Effect} {action : AddressAction}
    (edit : effect ∈ vrouter.virtualAddresses action) : ¬ effect.IsSent := by
  obtain ⟨family, iface, _, rfl⟩ := virtual_address_of_mem edit
  exact fun sent => sent.elim id id

theorem deletion_not_sent {effect : Effect} (deletion : effect ∈ vrouter.deleteMacVlans) :
    ¬ effect.IsSent := by
  obtain ⟨family, iface, _, rfl⟩ := deletion_of_mem deletion
  exact fun sent => sent.elim id id

theorem transition_sends_as_master (matched : vrouter.fsm.Matched)
    (transition : Transition env vrouter input next effects panicked)
    (other : ¬ input.IsNeighbor) (sees : vrouter.SeesVirtualMacs env) :
    ∀ effect ∈ effects, effect.IsSent →
      vrouter.fsm.state = .master ∨ next.fsm.state = .master := by
  intro effect member sent
  cases transition with
  | silent => contradiction
  | neighbor neighbor => exact absurd neighbor other
  | panics fires takesOver link mac =>
      obtain ⟨shown, same, _⟩ := sees .v4 _ _ rfl link
      rw [mac] at same
      contradiction
  | takesOver => exact .inr rfl
  | starts => exact absurd sent (edit_not_sent member)
  | stopsInit => exact absurd sent (deletion_not_sent member)
  | stopsBackup => exact absurd sent (deletion_not_sent member)
  | stopsMaster fires link state => exact .inl state
  | advertises deadline => exact .inl (matched.master deadline.1)
  | hearsLeaving => contradiction
  | defers => contradiction
  | preempts => exact .inr rfl
  | answers hears state => exact .inl state
  | yields event hears link state => exact .inl state

/-- Without the virtual MAC addresses a router may panic, with them it never does. -/
theorem transition_unpanicked (transition : Transition env vrouter input next effects panicked)
    (sees : vrouter.SeesVirtualMacs env) : panicked = false := by
  cases transition with
  | panics fires takesOver link mac =>
      obtain ⟨shown, same, _⟩ := sees .v4 _ _ rfl link
      rw [mac] at same
      contradiction
  | _ => rfl

end VirtualRouter

theorem Instance.step_within {inst : Instance} (sound : inst.poisoned = false)
    (matched : inst.vrouter.fsm.Matched) {env : Env} (sees : inst.vrouter.SeesVirtualMacs env)
    (input : Input) :
    (inst.step env input).1.poisoned = false ∧ (inst.step env input).1.vrouter.fsm.Matched ∧
      ∀ effect ∈ (inst.step env input).2, effect.Within inst.vrouter ∧
        (effect.IsSent → inst.vrouter.fsm.state = .master ∨
          (inst.step env input).1.vrouter.fsm.state = .master) := by
  have transition := step_transition sound env input
  refine ⟨transition_unpanicked transition sees, transition_matched transition matched, ?_⟩
  intro effect member
  by_cases neighbor : input.IsNeighbor
  · rw [step_effects sound] at member
    have owned : effect.Within inst.vrouter ∧ inst.vrouter.fsm.state = .master := by
      cases input with
      | arp packet => exact arp_within sees packet effect member
      | ndp payload => exact ndp_within sees payload effect member
      | _ => exact neighbor.elim
    exact ⟨owned.1, fun _ => .inl owned.2⟩
  · exact ⟨transition_within transition neighbor sees effect member,
      transition_sends_as_master matched transition neighbor sees effect member⟩

end Failover
