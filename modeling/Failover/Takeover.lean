import Failover.Cluster

/-!
# What a new Master announces

Startup as the address owner and `MasterDown` share one body. The third way into
Master, pre-emption in the packet handler, has its own.
-/

namespace Failover

open Library VirtualRouter

set_option autoImplicit false

def Effect.arpFrame : Effect → Option (String × ArpFrame)
  | .sendPacketArp ifname frame => some (ifname, frame)
  | _ => none

def Effect.neighborAdvertisement :
    Effect → Option (String × Ipv6Addr × NdpNeighborAdvertisement)
  | .sendNeighborAdvertisement ifname target na => some (ifname, target, na)
  | _ => none

def VirtualRouter.unsolicited (mac : MacAddr) (ip : Ipv6Addr) : NdpNeighborAdvertisement where
  targetAddress := ip
  targetLinkAddr := mac
  overrideFlag := true

/-- The calls that tell the network about a new Master: its advertisements, one
gratuitous ARP for each IPv4 address and one Neighbor Advertisement for each IPv6
address. -/
structure VirtualRouter.Announces (env : Env) (vrouter : VirtualRouter)
    (effects : List Effect) : Prop where
  v4_advert : .sendVrrpPacketV4 vrouter.macVlanInterfaceV4 vrouter.primaryIp
    (vrouter.advertisement (.v4 vrouter.ipv4Addrs)) ∈ effects
  v6_advert : vrouter.version = .v3 → ∀ src, vrouter.primaryIpV6 = some src →
    ∃ iface, vrouter.macVlanInterfaceV6 = some iface ∧
      .sendVrrpPacketV6 iface src (vrouter.advertisement (.v6 vrouter.ipv6Addrs)) ∈ effects
  arps : ∃ interface mac, env.getInterface vrouter.macVlanInterfaceV4 = .ok interface ∧
    interface.mac = some mac ∧ effects.filterMap Effect.arpFrame =
      vrouter.ipv4Addrs.map fun ip => (vrouter.macVlanInterfaceV4, gratuitousArp mac ip)
  neighbors : vrouter.version = .v3 → ∀ mac, vrouter.v6InterfaceMac env = some mac →
    ∃ iface, vrouter.macVlanInterfaceV6 = some iface ∧
      effects.filterMap Effect.neighborAdvertisement =
        vrouter.ipv6Addrs.map fun ip => (iface, ip, unsolicited mac ip)

namespace VirtualRouter

theorem send_advertisement_only (vrouter : VirtualRouter) :
    vrouter.sendAdvertisement.filterMap Effect.arpFrame = [] ∧
      vrouter.sendAdvertisement.filterMap Effect.neighborAdvertisement = [] := by
  unfold sendAdvertisement
  cases vrouter.macVlanInterfaceV6 <;> cases vrouter.primaryIpV6 <;> exact ⟨rfl, rfl⟩

theorem virtual_addresses_only (vrouter : VirtualRouter) (action : AddressAction) :
    (vrouter.virtualAddresses action).filterMap Effect.arpFrame = [] ∧
      (vrouter.virtualAddresses action).filterMap Effect.neighborAdvertisement = [] := by
  unfold virtualAddresses
  cases vrouter.macVlanInterfaceV6 <;> exact ⟨rfl, rfl⟩

theorem gratuitous_arps_only (vrouter : VirtualRouter) (mac : MacAddr) :
    (vrouter.sendGratuitousArps mac).filterMap Effect.arpFrame =
        vrouter.ipv4Addrs.map (fun ip => (vrouter.macVlanInterfaceV4, gratuitousArp mac ip)) ∧
      (vrouter.sendGratuitousArps mac).filterMap Effect.neighborAdvertisement = [] := by
  unfold sendGratuitousArps
  constructor
  · simp [List.filterMap_map, Function.comp_def, Effect.arpFrame]
  · simp [List.filterMap_map, Function.comp_def, Effect.neighborAdvertisement]

theorem neighbor_advertisements_only (vrouter : VirtualRouter) (mac : MacAddr) {iface : String}
    (link : vrouter.macVlanInterfaceV6 = some iface) :
    (vrouter.sendNeighborAdvertisements mac).filterMap Effect.arpFrame = [] ∧
      (vrouter.sendNeighborAdvertisements mac).filterMap Effect.neighborAdvertisement =
        vrouter.ipv6Addrs.map fun ip => (iface, ip, unsolicited mac ip) := by
  simp only [sendNeighborAdvertisements, link]
  constructor
  · simp [List.filterMap_map, Function.comp_def, Effect.arpFrame]
  · simp [List.filterMap_map, Function.comp_def, Effect.neighborAdvertisement, unsolicited]

theorem v6_interface_mac_link {env : Env} {vrouter : VirtualRouter} {mac : MacAddr}
    (found : vrouter.v6InterfaceMac env = some mac) :
    ∃ iface, vrouter.macVlanInterfaceV6 = some iface := by
  unfold v6InterfaceMac at found
  split at found
  · contradiction
  · exact ⟨_, by assumption⟩

theorem announce_ownership_only (env : Env) (vrouter : VirtualRouter) (mac : MacAddr) :
    (vrouter.announceOwnership env mac).filterMap Effect.arpFrame =
        vrouter.ipv4Addrs.map (fun ip => (vrouter.macVlanInterfaceV4, gratuitousArp mac ip)) ∧
      ∀ v6Mac, vrouter.v6InterfaceMac env = some v6Mac →
        ∃ iface, vrouter.macVlanInterfaceV6 = some iface ∧
          (vrouter.announceOwnership env mac).filterMap Effect.neighborAdvertisement =
            vrouter.ipv6Addrs.map fun ip => (iface, ip, unsolicited v6Mac ip) := by
  have arps := gratuitous_arps_only vrouter mac
  constructor
  · unfold announceOwnership
    rw [List.filterMap_append, arps.1]
    cases found : vrouter.v6InterfaceMac env with
    | none => simp
    | some v6Mac =>
        rcases v6_interface_mac_link found with ⟨iface, link⟩
        simp only [(neighbor_advertisements_only vrouter v6Mac link).1, List.append_nil]
  · intro v6Mac found
    rcases v6_interface_mac_link found with ⟨iface, link⟩
    have neighbors := neighbor_advertisements_only vrouter v6Mac link
    refine ⟨iface, link, ?_⟩
    simp only [announceOwnership, found, List.filterMap_append, arps.2, neighbors.2,
      List.nil_append]

theorem takes_over_announces {env : Env} {vrouter : VirtualRouter} {interface : NetworkInterface}
    {mac : MacAddr}
    (v6Side : vrouter.macVlanInterfaceV6.isSome = true ↔ vrouter.version = .v3)
    (link : env.getInterface vrouter.macVlanInterfaceV4 = .ok interface)
    (found : interface.mac = some mac) :
    vrouter.Announces env (vrouter.sendAdvertisement ++ vrouter.announceOwnership env mac ++
      vrouter.addVirtualAddresses) := by
  have adverts := send_advertisement_only vrouter
  have owned := announce_ownership_only env vrouter mac
  have added := virtual_addresses_only vrouter .add
  constructor
  · exact List.mem_append_left _ (List.mem_append_left _ (mem_send_advertisement.mpr (.inl rfl)))
  · intro version src source
    rcases Option.isSome_iff_exists.mp (v6Side.mpr version) with ⟨iface, present⟩
    have sent := mem_send_advertisement.mpr (.inr ⟨iface, src, present, source, rfl⟩)
    exact ⟨iface, present, List.mem_append_left _ (List.mem_append_left _ sent)⟩
  · refine ⟨interface, mac, link, found, ?_⟩
    rw [List.filterMap_append, List.filterMap_append, adverts.1, owned.1, addVirtualAddresses,
      added.1, List.nil_append, List.append_nil]
  · intro _ v6Mac v6Found
    rcases owned.2 v6Mac v6Found with ⟨iface, present, neighbors⟩
    refine ⟨iface, present, ?_⟩
    rw [List.filterMap_append, List.filterMap_append, adverts.2, neighbors, addVirtualAddresses,
      added.2, List.nil_append, List.append_nil]

/-- A router enters Master by the shared body or by pre-emption. -/
theorem transition_into_master {env : Env} {vrouter next : VirtualRouter} {input : Input}
    {effects : List Effect} {panicked : Bool}
    (transition : Transition env vrouter input next effects panicked)
    (before : vrouter.fsm.state ≠ .master) (after : next.fsm.state = .master) :
    (∃ event interface mac, Fires env vrouter input event ∧ vrouter.TakesOver event ∧
        env.getInterface vrouter.macVlanInterfaceV4 = .ok interface ∧ interface.mac = some mac ∧
        effects = vrouter.sendAdvertisement ++ vrouter.announceOwnership env mac ++
          vrouter.addVirtualAddresses) ∨
      ∃ packet iface, vrouter.heard env input = some packet ∧
        packet.priority < vrouter.priority ∧
        effects = [.virtualAddressAction .add (vrouter.nets packet.addresses.family) iface] := by
  cases transition with
  | takesOver fires takesOver link found => exact .inl ⟨_, _, _, fires, takesOver, link, found, rfl⟩
  | preempts hears _ _ _ _ lower => exact .inr ⟨_, _, hears, lower, rfl⟩
  | silent => exact absurd after before
  | neighbor => exact absurd after before
  | panics => exact absurd after before
  | starts => simp [backupFsm] at after
  | stopsInit => exact absurd after before
  | stopsBackup => simp [initFsm] at after
  | stopsMaster => simp [initFsm] at after
  | advertises => exact absurd after before
  | hearsLeaving => exact absurd after before
  | defers => exact absurd after before
  | answers => exact absurd after before
  | yields => simp [backupFsm] at after

end VirtualRouter

variable {fromStr : String → Option IpNet}

/-- A step into Master announces the takeover exactly when it does not come from a
received advertisement. -/
theorem takeover_announced_iff {conf : Config} {parent : NetworkInterface} {primaryIp : Ipv4Addr}
    {inst : Instance}
    (reachable : Instance.machine.Reachable
      (Instance.new ((configToVr fromStr conf).prepare parent primaryIp)) inst)
    {env : Env} {input : Input} (before : inst.vrouter.fsm.state ≠ .master)
    (after : (inst.step env input).1.vrouter.fsm.state = .master) :
    inst.vrouter.Announces env (inst.step env input).2 ↔ ¬ input.IsVrrp := by
  have sound : inst.poisoned = false := by
    by_contra poisoned
    rw [Bool.not_eq_false] at poisoned
    rw [Instance.step_poisoned poisoned] at after
    exact before after
  have v6Side : inst.vrouter.macVlanInterfaceV6.isSome = true ↔ inst.vrouter.version = .v3 := by
    rcases (Instance.run_of_reachable reachable).config with ⟨fsm, config⟩
    rw [config]
    exact config_to_vr_v6_side conf parent primaryIp
  have transition := Instance.step_transition sound env input
  rcases transition_into_master transition before after with
    ⟨event, interface, mac, fires, _, link, found, effects⟩ |
      ⟨packet, iface, hears, _, effects⟩
  · rw [effects]
    exact iff_of_true (takes_over_announces v6Side link found) (fires_not_vrrp fires)
  · rw [effects]
    apply iff_of_false
    · intro announces
      have advert := announces.v4_advert
      simp at advert
    · exact fun quiet => quiet (heard_vrrp hears)

theorem owner_startup_announces :
    (Sample.router .v3 255 10).Announces (Sample.env 10 0 [] [])
      ((Instance.new (Sample.router .v3 255 10)).step (Sample.env 10 0 [] [])
        (.notify .startup)).2 :=
  (@takeover_announced_iff Sample.parseNet (Sample.config .v3 255) (Sample.parent 10)
    (Sample.ipv4 10) (Instance.new (Sample.router .v3 255 10))
    (Machine.reachable_after _ _ []) (Sample.env 10 0 [] []) (.notify .startup)
    (by decide +kernel) (by decide +kernel)).mpr id

/-- A Backup that pre-empts sends nothing at all. -/
theorem preempting_unannounced :
    let backup := Instance.machine.after (Instance.new (Sample.router .v2 100 10))
      [(Sample.env 10 0 [] [], .notify .startup)]
    let advert := Input.vrrpV4 (Sample.router .v2 50 20).ipv4Advert
    let stepped := backup.step (Sample.env 10 1 [] []) advert
    Instance.machine.Reachable (Instance.new (Sample.router .v2 100 10)) backup ∧
      backup.vrouter.fsm.state = .backup ∧ stepped.1.vrouter.fsm.state = .master ∧
      ¬ backup.vrouter.Announces (Sample.env 10 1 [] []) stepped.2 := by
  intro backup advert stepped
  have effects : stepped.2 = [.virtualAddressAction .add
      [Sample.virtualIpv4] "fover4-51-9724"] := by decide +kernel
  refine ⟨Machine.reachable_after _ _ _, by decide +kernel, by decide +kernel, ?_⟩
  intro announces
  have advertised := announces.v4_advert
  rw [effects] at advertised
  simp at advertised

end Failover
