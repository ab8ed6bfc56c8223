import Failover.Cluster

/-!
# Members of one virtual router understand each other

The limits of the validator and of `config_to_vr` are those of the packet format,
so what one member sends passes every check of another.
-/

namespace Failover

open Library VirtualRouter

set_option autoImplicit false

/-- Only the fields in which the members of one virtual router may differ. -/
def Config.SameVirtualRouter (conf peer : Config) : Prop :=
  peer = { conf with
    name := peer.name
    priority := peer.priority
    preemptMode := peer.preemptMode
    interfaceName := peer.interfaceName }

namespace VirtualRouter

/-- What a receiver checks its own configuration against. -/
structure SameGroup (sender receiver : VirtualRouter) : Prop where
  version : sender.version = receiver.version
  vrid : sender.vrid = receiver.vrid
  advertInterval : sender.advertInterval = receiver.advertInterval
  ipv4Addresses : sender.ipv4Addresses = receiver.ipv4Addresses
  ipv6Addresses : sender.ipv6Addresses = receiver.ipv6Addresses

structure Advertisable (vrouter : VirtualRouter) : Prop where
  ipv4_count : vrouter.ipv4Addresses.length ≤ VrrpPacket.maxIpCount
  ipv6_count : vrouter.ipv6Addresses.length ≤ VrrpPacket.maxIpCount
  interval : vrouter.version = .v3 → vrouter.advertInterval ≤ 40

theorem SameGroup.symm {sender receiver : VirtualRouter} (group : SameGroup sender receiver) :
    SameGroup receiver sender :=
  ⟨group.version.symm, group.vrid.symm, group.advertInterval.symm, group.ipv4Addresses.symm,
    group.ipv6Addresses.symm⟩

theorem SameGroup.trans {first second third : VirtualRouter} (left : SameGroup first second)
    (right : SameGroup second third) : SameGroup first third :=
  ⟨left.version.trans right.version, left.vrid.trans right.vrid,
    left.advertInterval.trans right.advertInterval, left.ipv4Addresses.trans right.ipv4Addresses,
    left.ipv6Addresses.trans right.ipv6Addresses⟩

theorem SameGroup.advertisable {sender receiver : VirtualRouter}
    (group : SameGroup sender receiver) (advertisable : sender.Advertisable) :
    receiver.Advertisable := by
  constructor
  · rw [← group.ipv4Addresses]
    exact advertisable.ipv4_count
  · rw [← group.ipv6Addresses]
    exact advertisable.ipv6_count
  · rw [← group.version, ← group.advertInterval]
    exact advertisable.interval

/-- The payload decodes to the packet, and every check in front of the dispatch
passes, those that the address owner may fail included. -/
structure Understands (receiver : VirtualRouter) (packet : VrrpPacket) (payload : List UInt8)
    (srcIp dstIp : IpAddr) : Prop where
  decoded : VrrpPacket.decode payload srcIp dstIp = .ok packet
  vrid : packet.vrid = receiver.vrid
  interval : packet.adverIntCs = receiver.advertInterval.toUInt16 * 100
  count : (receiver.addressChecks packet.addresses).1 = true
  addresses : (receiver.addressChecks packet.addresses).2.1 = true
  link : (receiver.macVlan packet.addresses.family).isSome = true

theorem Understands.verified {receiver : VirtualRouter} {packet : VrrpPacket}
    {payload : List UInt8} {srcIp dstIp : IpAddr}
    (understands : receiver.Understands packet payload srcIp dstIp) :
    receiver.verifyVrrpPacket packet 255 = .ok () := by
  simp [verifyVrrpPacket, understands.vrid, understands.interval, understands.count,
    understands.addresses]

theorem Understands.accepted {receiver : VirtualRouter} {packet : VrrpPacket}
    {payload : List UInt8} {srcIp dstIp : IpAddr}
    (understands : receiver.Understands packet payload srcIp dstIp) :
    receiver.accept payload srcIp dstIp 255 = some packet := by
  simp [accept, understands.decoded, understands.verified, understands.link]

theorem interval_centiseconds (seconds : UInt8) :
    (seconds.toUInt16 * 100).toNat = seconds.toNat * 100 := by
  have bound := seconds.toNat_lt
  simp only [UInt16.toNat_mul, UInt8.toNat_toUInt16, UInt16.reduceToNat]
  exact Nat.mod_eq_of_lt (by omega)

theorem all_contains_self {bits : Nat} (addrs : List (BitVec bits)) :
    addrs.all (fun addr => addrs.contains addr) = true := by
  simp

theorem advertisement_fits {vrouter : VirtualRouter} (advertisable : vrouter.Advertisable)
    {addresses : VrrpAddresses} (count : addresses.len ≤ VrrpPacket.maxIpCount)
    (v6Only : ∀ addrs, addresses = .v6 addrs → vrouter.version = .v3) :
    (vrouter.advertisement addresses).Fits := by
  refine ⟨count, ?_, v6Only⟩
  simp only [advertisement]
  cases version : vrouter.version with
  | v2 => exact ⟨vrouter.advertInterval, rfl⟩
  | v3 =>
      have short := UInt8.le_iff_toNat_le.mp (advertisable.interval version)
      simp only [UInt8.reduceToNat] at short
      rw [interval_centiseconds]
      omega

theorem advertises_v4 {sender receiver : VirtualRouter} (group : SameGroup sender receiver)
    (advertisable : sender.Advertisable) (src : Ipv4Addr) (dst : IpAddr) :
    let packet := sender.advertisement (.v4 sender.ipv4Addrs)
    receiver.Understands packet (packet.encode (.v4 src)) (.v4 src) dst := by
  have fits : (sender.advertisement (.v4 sender.ipv4Addrs)).Fits :=
    advertisement_fits advertisable
      (by simpa [VrrpAddresses.len, ipv4Addrs] using advertisable.ipv4_count) (by simp)
  constructor
  · exact VrrpPacket.decode_encode_v4 fits rfl src dst
  · exact group.vrid
  · simp only [advertisement, group.advertInterval]
  · simp [advertisement, addressChecks, ipv4Addrs, group.ipv4Addresses]
  · simp only [advertisement, addressChecks, ipv4Addrs, group.ipv4Addresses]
    exact all_contains_self _
  · rfl

theorem advertises_v6 {sender receiver : VirtualRouter} (group : SameGroup sender receiver)
    (advertisable : sender.Advertisable) (version : sender.version = .v3)
    (link : receiver.macVlanInterfaceV6.isSome = true) (src : Ipv6Addr) :
    let packet := sender.advertisement (.v6 sender.ipv6Addrs)
    receiver.Understands packet (packet.encode (.v6 src)) (.v6 src) (.v6 vrrpV6McastAddr) := by
  have fits : (sender.advertisement (.v6 sender.ipv6Addrs)).Fits :=
    advertisement_fits advertisable
      (by simpa [VrrpAddresses.len, ipv6Addrs] using advertisable.ipv6_count)
      (fun _ _ => version)
  constructor
  · exact VrrpPacket.decode_encode_v6 fits rfl src
  · exact group.vrid
  · simp only [advertisement, group.advertInterval]
  · simp [advertisement, addressChecks, ipv6Addrs, group.ipv6Addresses]
  · simp only [advertisement, addressChecks, ipv6Addrs, group.ipv6Addresses]
    exact all_contains_self _
  · exact link

/-- The source filter is all that stands between an advertisement and another
member of the virtual router. -/
theorem advert_heard {sender receiver : VirtualRouter} (group : SameGroup sender receiver)
    (advertisable : sender.Advertisable) (senderReady : sender.Prepared)
    (receiverReady : receiver.Prepared) {inst : Instance} (runs : Instance.RunOf receiver inst)
    {message : Input} (sent : message ∈ sender.adverts) {env : Env}
    (elsewhere : ¬ message.FromLocal env) :
    ∃ packet, inst.vrouter.heard env message = some packet ∧
      packet.priority = sender.priority := by
  rcases runs.config with ⟨fsm, config⟩
  rw [config]
  have groupNow : SameGroup sender (receiver.withFsm fsm) :=
    ⟨group.version, group.vrid, group.advertInterval, group.ipv4Addresses, group.ipv6Addresses⟩
  rcases mem_adverts.mp sent with rfl | ⟨iface, src, v6Side, _, rfl⟩
  · have understands := advertises_v4 groupNow advertisable sender.primaryIp (.v4 vrrpMcastAddr)
    exact ⟨_, heard_v4_iff.mpr ⟨Bool.eq_false_iff.mpr elsewhere, understands.accepted⟩, rfl⟩
  · have version : sender.version = .v3 := senderReady.v6_side.mp (by simp [v6Side])
    have link := receiverReady.v6_side.mpr (group.version.symm.trans version)
    have understands := advertises_v6 groupNow advertisable version link src
    exact ⟨_, heard_v6_iff.mpr ⟨Bool.eq_false_iff.mpr elsewhere, understands.accepted⟩, rfl⟩

end VirtualRouter

theorem config_to_vr_same_group (fromStr : String → Option IpNet) {conf peer : Config} (same : conf.SameVirtualRouter peer)
    (parent peerParent : NetworkInterface) (primaryIp peerIp : Ipv4Addr) :
    SameGroup ((configToVr fromStr conf).prepare parent primaryIp)
      ((configToVr fromStr peer).prepare peerParent peerIp) := by
  unfold Config.SameVirtualRouter at same
  rw [same]
  exact ⟨rfl, rfl, rfl, rfl, rfl⟩

variable {fromStr : String → Option IpNet}

theorem config_to_vr_advertisable {configs : List Config}
    (accepted : validateConfigs fromStr configs = .ok ()) {conf : Config} (member : conf ∈ configs)
    (parent : NetworkInterface) (primaryIp : Ipv4Addr) :
    ((configToVr fromStr conf).prepare parent primaryIp).Advertisable := by
  have few : (if conf.ipAddresses.length ≤ VrrpPacket.maxIpCount then conf.ipAddresses
      else conf.ipAddresses.take VrrpPacket.maxIpCount).length ≤ VrrpPacket.maxIpCount := by
    split
    · assumption
    · rw [List.length_take]
      exact Nat.min_le_left _ _
  constructor
  · exact (List.length_filterMap_le _ _).trans few
  · exact (List.length_filterMap_le _ _).trans few
  · exact valid_config_interval accepted conf member

theorem prepared_of_same {configs : List Config}
    (accepted : validateConfigs fromStr configs = .ok ()) {conf : Config} (member : conf ∈ configs)
    {peer : Config} (same : conf.SameVirtualRouter peer) (parent : NetworkInterface)
    (primaryIp : Ipv4Addr) : ((configToVr fromStr peer).prepare parent primaryIp).Prepared := by
  have group := config_to_vr_same_group fromStr same parent parent primaryIp primaryIp
  constructor
  · exact config_to_vr_v6_side peer parent primaryIp
  · exact fun iface => config_to_vr_distinct peer parent primaryIp
  · intro version
    have valid := (prepared_of_valid accepted member parent primaryIp).v4_only
    exact group.ipv6Addresses.symm.trans (valid (group.version.trans version))

/-- Whatever a router built from an accepted configuration advertises reaches the
dispatch of every router of the same virtual router, in any state of its. -/
theorem advertisement_understood {configs : List Config}
    (accepted : validateConfigs fromStr configs = .ok ()) {conf : Config} (member : conf ∈ configs)
    {peer : Config} (same : conf.SameVirtualRouter peer) (parent peerParent : NetworkInterface)
    (primaryIp peerIp : Ipv4Addr) (fsm : VirtualRouterMachine) (env : Env) :
    let sender := (configToVr fromStr conf).prepare parent primaryIp
    let receiver := ((configToVr fromStr peer).prepare peerParent peerIp).withFsm fsm
    (∀ ifname src packet, .sendVrrpPacketV4 ifname src packet ∈ sender.sendAdvertisement →
      packet = sender.advertisement (.v4 sender.ipv4Addrs) ∧ ∀ dst,
        receiver.Understands packet (packet.encode (.v4 src)) (.v4 src) dst ∧
        receiver.processVrrpPacket env (packet.encode (.v4 src)) (.v4 src) dst 255 =
          receiver.dispatchVrrpPacket env packet receiver.macVlanInterfaceV4
            receiver.strIpv4Addresses) ∧
    (∀ ifname src packet, .sendVrrpPacketV6 ifname src packet ∈ sender.sendAdvertisement →
      packet = sender.advertisement (.v6 sender.ipv6Addrs) ∧
        receiver.Understands packet (packet.encode (.v6 src)) (.v6 src) (.v6 vrrpV6McastAddr) ∧
        ∃ iface, receiver.macVlanInterfaceV6 = some iface ∧
          receiver.processVrrpPacket env (packet.encode (.v6 src)) (.v6 src)
              (.v6 vrrpV6McastAddr) 255 =
            receiver.dispatchVrrpPacket env packet iface receiver.strIpv6Addresses) := by
  intro sender receiver
  have group : SameGroup sender receiver := by
    have built := config_to_vr_same_group fromStr same parent peerParent primaryIp peerIp
    exact ⟨built.version, built.vrid, built.advertInterval, built.ipv4Addresses,
      built.ipv6Addresses⟩
  have advertisable : sender.Advertisable :=
    config_to_vr_advertisable accepted member parent primaryIp
  constructor
  · intro ifname src packet sent
    obtain ⟨rfl, rfl, rfl⟩ : ifname = sender.macVlanInterfaceV4 ∧ src = sender.primaryIp ∧
        packet = sender.advertisement (.v4 sender.ipv4Addrs) := by
      simpa using mem_send_advertisement.mp sent
    refine ⟨rfl, fun dst => ?_⟩
    have understands := advertises_v4 group advertisable sender.primaryIp dst
    obtain ⟨iface, link, processed⟩ := process_accepted env understands.accepted
    refine ⟨understands, ?_⟩
    obtain rfl : receiver.macVlanInterfaceV4 = iface := Option.some.inj link
    exact processed
  · intro ifname src packet sent
    obtain ⟨iface, source, present, _, effect⟩ : ∃ iface source,
        sender.macVlanInterfaceV6 = some iface ∧ sender.primaryIpV6 = some source ∧
          Effect.sendVrrpPacketV6 ifname src packet =
            .sendVrrpPacketV6 iface source (sender.advertisement (.v6 sender.ipv6Addrs)) := by
      simpa using mem_send_advertisement.mp sent
    cases effect
    have side : sender.macVlanInterfaceV6.isSome = true := by
      rw [present]
      rfl
    have version : conf.version = .v3 := (config_to_vr_v6_side conf parent primaryIp).mp side
    have peerSide : receiver.macVlanInterfaceV6.isSome = true :=
      (config_to_vr_v6_side peer peerParent peerIp).mpr (group.version.symm.trans version)
    have understands := advertises_v6 group advertisable version peerSide src
    obtain ⟨peerIface, link, processed⟩ := process_accepted env understands.accepted
    exact ⟨rfl, understands, peerIface, link, processed⟩

/-- The IPv6 advertisement of a dual-stack router, as a second one reads it. -/
theorem dual_stack_understood :
    let sender := Sample.router .v3 100 10
    let packet := sender.advertisement (.v6 sender.ipv6Addrs)
    (Sample.router .v3 200 20).Understands packet (packet.encode (.v6 (Sample.ipv6 10)))
      (.v6 (Sample.ipv6 10)) (.v6 vrrpV6McastAddr) := by
  have understood := @advertisement_understood Sample.parseNet [Sample.config .v3 100] rfl
    (Sample.config .v3 100) List.mem_cons_self (Sample.config .v3 200) rfl (Sample.parent 10)
    (Sample.parent 20) (Sample.ipv4 10) (Sample.ipv4 20) .default (Sample.env 20 0 [] [])
  exact (understood.2 "fover6-51-9724" (Sample.ipv6 10) _ (by decide +kernel)).2.1

end Failover
