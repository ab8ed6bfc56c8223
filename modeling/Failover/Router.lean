import Failover.Environment

/-!
# The virtual router

The state of one instance and the packets it sends about itself, after
`router.rs`. The configured fields never change once a router runs; the handlers
assign `fsm` only.
-/

namespace Failover

set_option autoImplicit false

structure VirtualRouter where
  name : String
  vrid : UInt8
  version : VrrpVersion
  ipv4Addresses : List Ipv4Net
  ipv6Addresses : List Ipv6Net
  priority : UInt8
  skewTime : ℚ
  advertInterval : UInt8
  masterDownInterval : ℚ
  preemptMode : Bool
  networkInterface : String
  macVlanInterfaceV4 : String
  /-- `some` only for a v3 instance. -/
  macVlanInterfaceV6 : Option String
  primaryIp : Ipv4Addr
  primaryIpV6 : Option Ipv6Addr
  fsm : VirtualRouterMachine
  deriving DecidableEq

structure VirtualRouterParams where
  name : String
  vrid : UInt8
  version : VrrpVersion
  ipv4Addresses : List Ipv4Net
  ipv6Addresses : List Ipv6Net
  priority : UInt8
  advertInterval : UInt8
  preemptMode : Bool
  networkInterface : String

namespace VirtualRouter

def skewTimeOf (version : VrrpVersion) (priority advertInterval : UInt8) : ℚ :=
  match version with
  -- A flat sub-second tiebreaker, independent of the interval.
  | .v2 => (256 - priority.toNat) / 256
  | .v3 => ((256 - priority.toNat) * advertInterval.toNat) / 256

def new (params : VirtualRouterParams) : VirtualRouter :=
  let skewTime := skewTimeOf params.version params.priority params.advertInterval
  { name := params.name
    vrid := params.vrid
    version := params.version
    ipv4Addresses := params.ipv4Addresses
    ipv6Addresses := params.ipv6Addresses
    priority := params.priority
    skewTime
    advertInterval := params.advertInterval
    masterDownInterval := 3 * params.advertInterval.toNat + skewTime
    preemptMode := params.preemptMode
    networkInterface := params.networkInterface
    macVlanInterfaceV4 := ""
    macVlanInterfaceV6 := match params.version with
      | .v3 => some ""
      | .v2 => none
    primaryIp := 0
    primaryIpV6 := none
    fsm := .default }

def ipv4Addrs (vrouter : VirtualRouter) : List Ipv4Addr :=
  vrouter.ipv4Addresses.map Ipv4Net.addr

def ipv6Addrs (vrouter : VirtualRouter) : List Ipv6Addr :=
  vrouter.ipv6Addresses.map Ipv6Net.addr

def strIpv4Addresses (vrouter : VirtualRouter) : List IpNet :=
  vrouter.ipv4Addresses.map IpNet.v4

def strIpv6Addresses (vrouter : VirtualRouter) : List IpNet :=
  vrouter.ipv6Addresses.map IpNet.v6

/-- The packet a router sends about itself, with the addresses of one family. -/
def advertisement (vrouter : VirtualRouter) (addresses : VrrpAddresses) : VrrpPacket where
  version := vrouter.version
  vrid := vrouter.vrid
  priority := vrouter.priority
  adverIntCs := vrouter.advertInterval.toUInt16 * 100
  addresses

def sendAdvertisement (vrouter : VirtualRouter) : List Effect :=
  .sendVrrpPacketV4 vrouter.macVlanInterfaceV4 vrouter.primaryIp
      (vrouter.advertisement (.v4 vrouter.ipv4Addrs)) ::
    match vrouter.macVlanInterfaceV6, vrouter.primaryIpV6 with
    | some v6Iface, some srcV6 =>
        [.sendVrrpPacketV6 v6Iface srcV6 (vrouter.advertisement (.v6 vrouter.ipv6Addrs))]
    | _, _ => []

def gratuitousArp (interfaceMac : MacAddr) (ip : Ipv4Addr) : ArpFrame :=
  ArpFrame.new
    { dstMac := 0xffffffffffff, srcMac := interfaceMac, ethertype := 0x0806 }
    { hwType := 1
      protoType := 0x0800
      hwLength := 6
      protoLength := 4
      operation := 1
      senderHwAddress := interfaceMac
      senderProtoAddress := ip
      targetHwAddress := 0xffffffffffff
      targetProtoAddress := ip }

def sendGratuitousArps (vrouter : VirtualRouter) (interfaceMac : MacAddr) : List Effect :=
  vrouter.ipv4Addrs.map fun ip =>
    .sendPacketArp vrouter.macVlanInterfaceV4 (gratuitousArp interfaceMac ip)

def sendNeighborAdvertisements (vrouter : VirtualRouter) (interfaceMac : MacAddr) :
    List Effect :=
  match vrouter.macVlanInterfaceV6 with
  | none => []
  | some v6Iface => vrouter.ipv6Addrs.map fun ip =>
      .sendNeighborAdvertisement v6Iface ip
        { targetAddress := ip, targetLinkAddr := interfaceMac, overrideFlag := true }

def withFsm (vrouter : VirtualRouter) (fsm : VirtualRouterMachine) : VirtualRouter :=
  { vrouter with fsm }

@[simp] theorem with_fsm_fsm (vrouter : VirtualRouter) (fsm : VirtualRouterMachine) :
    (vrouter.withFsm fsm).fsm = fsm := rfl

@[simp] theorem with_fsm_self (vrouter : VirtualRouter) : vrouter.withFsm vrouter.fsm = vrouter :=
  rfl

@[simp] theorem with_fsm_with_fsm (vrouter : VirtualRouter) (first second : VirtualRouterMachine) :
    (vrouter.withFsm first).withFsm second = vrouter.withFsm second := rfl

theorem mem_send_advertisement {vrouter : VirtualRouter} {effect : Effect} :
    effect ∈ vrouter.sendAdvertisement ↔
      effect = .sendVrrpPacketV4 vrouter.macVlanInterfaceV4 vrouter.primaryIp
          (vrouter.advertisement (.v4 vrouter.ipv4Addrs)) ∨
        ∃ iface src, vrouter.macVlanInterfaceV6 = some iface ∧ vrouter.primaryIpV6 = some src ∧
          effect = .sendVrrpPacketV6 iface src (vrouter.advertisement (.v6 vrouter.ipv6Addrs)) := by
  unfold sendAdvertisement
  cases vrouter.macVlanInterfaceV6 <;> cases vrouter.primaryIpV6 <;> simp

theorem send_advertisement_effects {vrouter : VirtualRouter} :
    ∀ effect ∈ vrouter.sendAdvertisement, effect.IsAdvertisement := by
  intro effect member
  rcases mem_send_advertisement.mp member with rfl | ⟨iface, src, _, _, rfl⟩ <;> trivial

theorem skew_time_nonneg (version : VrrpVersion) (priority advertInterval : UInt8) :
    0 ≤ skewTimeOf version priority advertInterval := by
  have bound : (priority.toNat : ℚ) < 256 := by exact_mod_cast priority.toNat_lt
  cases version with
  | v2 =>
      simp only [skewTimeOf]
      linarith
  | v3 =>
      simp only [skewTimeOf]
      have gap : 0 ≤ (256 : ℚ) - priority.toNat := by linarith
      exact div_nonneg (mul_nonneg gap (Nat.cast_nonneg _)) (by norm_num)

/-- Both durations are multiples of 1/256 with a numerator that a 24-bit
significand holds, so the arithmetic of `new` does not round. -/
theorem new_times_exact (params : VirtualRouterParams) :
    ∃ skew down : Nat, (new params).skewTime = skew / 256 ∧
      (new params).masterDownInterval = down / 256 ∧ skew < 2 ^ 24 ∧ down < 2 ^ 24 := by
  have priorityBound := params.priority.toNat_lt
  have intervalBound := params.advertInterval.toNat_lt
  have gap : ((256 - params.priority.toNat : Nat) : ℚ) = 256 - params.priority.toNat := by
    rw [Nat.cast_sub (by omega)]
    norm_num
  cases version : params.version with
  | v2 =>
      refine ⟨256 - params.priority.toNat,
        768 * params.advertInterval.toNat + (256 - params.priority.toNat), ?_, ?_, by omega,
        by omega⟩
      · simp only [new, skewTimeOf, version, gap]
      · simp only [new, skewTimeOf, version]
        push_cast [gap]
        ring
  | v3 =>
      have product : (256 - params.priority.toNat) * params.advertInterval.toNat ≤ 256 * 256 :=
        Nat.mul_le_mul (by omega) (by omega)
      refine ⟨(256 - params.priority.toNat) * params.advertInterval.toNat,
        768 * params.advertInterval.toNat +
          (256 - params.priority.toNat) * params.advertInterval.toNat, ?_, ?_, by omega, by omega⟩
      · simp only [new, skewTimeOf, version]
        push_cast [gap]
        ring
      · simp only [new, skewTimeOf, version]
        push_cast [gap]
        ring

end VirtualRouter

end Failover
