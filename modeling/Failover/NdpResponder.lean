import Failover.Invariants
import Failover.NeighborWire

/-!
# Answering Neighbor Solicitations

What a Master sends when it is asked for one of its IPv6 addresses.
-/

namespace Failover

open Library VirtualRouter

set_option autoImplicit false

namespace NdpNeighborSolicitation

def targetAt (payload : List UInt8) : Ipv6Addr :=
  BitVec.ofNat 128 (ofBytes ((payload.drop 8).take 16))

theorem decode_eq (payload : List UInt8) :
    decode payload =
      if 24 ≤ payload.length ∧ payload[0]? = some 135 then
        .ok (some { targetAddress := targetAt payload })
      else .ok none := by
  by_cases long : 24 ≤ payload.length
  · cases payload with
    | nil => simp at long
    | cons type rest =>
        have enough : 16 ≤ ((type :: rest).drop 8).length := by
          simp only [List.length_cons, List.length_drop] at long ⊢
          omega
        rw [decode, if_neg (Nat.not_lt.mpr long), get_u8_cons, Outcome.ok_bind]
        by_cases solicits : type = 135
        · rw [if_pos ⟨long, by rw [solicits]; rfl⟩]
          simp only [solicits, ne_eq, not_true_eq_false, if_false]
          rw [solicits] at enough
          rw [get_uint_of_le enough, Outcome.ok_bind]
          rfl
        · rw [if_neg fun both => solicits (Option.some.inj both.2)]
          simp only [ne_eq, solicits, not_false_eq_true, if_true]
  · rw [if_neg fun both => long both.1, decode, if_pos (Nat.lt_of_not_le long)]

theorem octets_target_at {payload : List UInt8} (long : 24 ≤ payload.length) :
    octets (targetAt payload) = (payload.drop 8).take 16 := by
  have length : ((payload.drop 8).take 16).length = 16 := by
    simp only [List.length_take, List.length_drop]
    omega
  have restored := to_bytes_of_bytes ((payload.drop 8).take 16)
  rw [length] at restored
  rw [targetAt, octets_of_nat (by rfl)]
  exact restored

end NdpNeighborSolicitation

/-- A Neighbor Advertisement for the target and its MAC address that any receiver takes
over and whose checksum verifies. -/
structure AdvertisesNeighbor (target : Ipv6Addr) (mac : MacAddr) (message : List UInt8) :
    Prop where
  length : message.length = 32
  type : message[0]? = some 136
  overrides : message[4]? = some 0b00100000
  address : (message.drop 8).take 16 = octets target
  option : message.drop 24 = [2, 1] ++ octets mac
  verifies : ((icmpv6PseudoHeader target allNodesV6McastAddr 32).addBytes message).checksum =
    [0, 0]

namespace VirtualRouter

/-- The solicitation asks a Master for one of its IPv6 addresses. -/
def OwesAdvertisement (vrouter : VirtualRouter) (payload : List UInt8) : Prop :=
  vrouter.version = .v3 ∧ vrouter.fsm.state = .master ∧ 24 ≤ payload.length ∧
    payload[0]? = some 135 ∧ NdpNeighborSolicitation.targetAt payload ∈ vrouter.ipv6Addrs

instance (vrouter : VirtualRouter) (payload : List UInt8) :
    Decidable (vrouter.OwesAdvertisement payload) :=
  inferInstanceAs (Decidable (_ ∧ _ ∧ _ ∧ _ ∧ _))

def solicitedAdvertisement (payload : List UInt8) (interfaceMac : MacAddr) :
    NdpNeighborAdvertisement where
  targetAddress := NdpNeighborSolicitation.targetAt payload
  targetLinkAddr := interfaceMac
  overrideFlag := true

theorem solicited_advertisement_valid (payload : List UInt8) (interfaceMac : MacAddr) :
    let target := NdpNeighborSolicitation.targetAt payload
    AdvertisesNeighbor target interfaceMac
      ((solicitedAdvertisement payload interfaceMac).encode target allNodesV6McastAddr) := by
  intro target
  let na := solicitedAdvertisement payload interfaceMac
  have targetLength : (octets target).length = 16 := octets_length target
  obtain ⟨check0, check1, encoded⟩ := na.encode_layout target allNodesV6McastAddr
  have behind : (na.encode target allNodesV6McastAddr).drop 8 =
      octets target ++ (2 :: 1 :: octets interfaceMac) := by rw [encoded]; rfl
  constructor
  · exact na.encode_length target allNodesV6McastAddr
  · exact congrArg (fun bytes => bytes[0]?) encoded
  · exact congrArg (fun bytes => bytes[4]?) encoded
  · rw [behind, ← targetLength, List.take_left]
  · have later : 24 = 8 + (octets target).length := by rw [targetLength]
    rw [later, ← List.drop_drop, behind, List.drop_left]
    rfl
  · exact na.encode_verifies target allNodesV6McastAddr

theorem ndp_answers {env : Env} {vrouter : VirtualRouter} {v6Iface : String}
    (v6Side : vrouter.macVlanInterfaceV6 = some v6Iface) (version : vrouter.version = .v3)
    {interface : NetworkInterface} (link : env.getInterface v6Iface = .ok interface)
    {interfaceMac : MacAddr} (found : interface.mac = some interfaceMac) (payload : List UInt8) :
    (vrouter.handleIncomingNdpPkt env payload).effects =
      if vrouter.OwesAdvertisement payload then
        [.sendNeighborAdvertisement v6Iface (NdpNeighborSolicitation.targetAt payload)
          (solicitedAdvertisement payload interfaceMac)]
      else [] := by
  simp only [handleIncomingNdpPkt, v6Side, NdpNeighborSolicitation.decode_eq]
  by_cases master : vrouter.fsm.state = .master
  · rw [if_neg (not_not.mpr master)]
    have asked : (vrouter.ipv6Addrs.any fun ip =>
        ip = NdpNeighborSolicitation.targetAt payload) =
          decide (NdpNeighborSolicitation.targetAt payload ∈ vrouter.ipv6Addrs) := by
      rw [Bool.eq_iff_iff]
      simp
    by_cases solicits : 24 ≤ payload.length ∧ payload[0]? = some 135
    · rw [if_pos solicits]
      by_cases configured : NdpNeighborSolicitation.targetAt payload ∈ vrouter.ipv6Addrs
      · have owes : vrouter.OwesAdvertisement payload :=
          ⟨version, master, solicits.1, solicits.2, configured⟩
        rw [if_pos owes]
        simp [asked, configured, link, found, Handled.done, solicitedAdvertisement]
      · have unowed : ¬ vrouter.OwesAdvertisement payload := fun owes => configured owes.2.2.2.2
        rw [if_neg unowed]
        simp [asked, configured, Handled.unchanged]
    · have unowed : ¬ vrouter.OwesAdvertisement payload :=
        fun owes => solicits ⟨owes.2.2.1, owes.2.2.2.1⟩
      rw [if_neg solicits, if_neg unowed]
      rfl
  · have unowed : ¬ vrouter.OwesAdvertisement payload := fun owes => master owes.2.1
    rw [if_pos master, if_neg unowed]
    rfl

end VirtualRouter

namespace Instance

variable {fromStr : String → Option IpNet}

/-- One Neighbor Advertisement on the v6 mac-vlan for every solicitation that asks a
version 3 Master for one of its addresses, and none for anything else. -/
theorem solicitations_answered (conf : Config) (parent : NetworkInterface) (primaryIp : Ipv4Addr)
    {inst : Instance}
    (reachable : machine.Reachable (new ((configToVr fromStr conf).prepare parent primaryIp)) inst)
    {env : Env} {interfaceMac : MacAddr}
    (link : ∀ v6Iface, inst.vrouter.macVlanInterfaceV6 = some v6Iface →
      ∃ interface, env.getInterface v6Iface = .ok interface ∧ interface.mac = some interfaceMac)
    (payload : List UInt8) :
    let target := NdpNeighborSolicitation.targetAt payload
    (inst.vrouter.OwesAdvertisement payload →
      ∃ v6Iface na, inst.vrouter.macVlanInterfaceV6 = some v6Iface ∧
        (inst.step env (.ndp payload)).2 = [.sendNeighborAdvertisement v6Iface target na] ∧
        AdvertisesNeighbor target interfaceMac (na.encode target allNodesV6McastAddr) ∧
        octets target = (payload.drop 8).take 16) ∧
      (¬ inst.vrouter.OwesAdvertisement payload → (inst.step env (.ndp payload)).2 = []) := by
  intro target
  have runs := run_of_reachable reachable
  obtain ⟨fsm, config⟩ := runs.config
  have v6Side : inst.vrouter.macVlanInterfaceV6.isSome = true ↔ inst.vrouter.version = .v3 := by
    rw [config]
    exact config_to_vr_v6_side conf parent primaryIp
  constructor
  · intro owes
    have sound := runs.sound_of_master owes.2.1
    obtain ⟨v6Iface, named⟩ := Option.isSome_iff_exists.mp (v6Side.mpr owes.1)
    obtain ⟨interface, present, found⟩ := link v6Iface named
    have sent := ndp_answers named owes.1 present found payload
    rw [if_pos owes] at sent
    exact ⟨v6Iface, solicitedAdvertisement payload interfaceMac, named,
      (step_effects sound env _).trans sent,
      solicited_advertisement_valid payload interfaceMac,
      NdpNeighborSolicitation.octets_target_at owes.2.2.1⟩
  · intro unowed
    cases poisoned : inst.poisoned with
    | true => rw [step_poisoned poisoned]
    | false =>
        have handled : (inst.step env (.ndp payload)).2 =
            (inst.vrouter.handleIncomingNdpPkt env payload).effects :=
          step_effects poisoned env _
        rw [handled]
        cases named : inst.vrouter.macVlanInterfaceV6 with
        | none =>
            simp only [handleIncomingNdpPkt, named]
            rfl
        | some v6Iface =>
            obtain ⟨interface, present, found⟩ := link v6Iface named
            have version := v6Side.mp (Option.isSome_iff_exists.mpr ⟨v6Iface, named⟩)
            rw [ndp_answers named version present found, if_neg unowed]

end Instance

namespace Sample

def ndpMaster : Instance :=
  Instance.machine.after (Instance.new (router .v3 100 10))
    [(env 10 0 [] [], .notify .startup), (env 10 10 [] [], .tick)]

def solicitation : List UInt8 := [135, 0, 0, 0, 0, 0, 0, 0] ++ octets (ipv6 1)

end Sample

theorem Instance.solicitation_answered :
    let target := NdpNeighborSolicitation.targetAt Sample.solicitation
    ∃ v6Iface na, Sample.ndpMaster.vrouter.macVlanInterfaceV6 = some v6Iface ∧
      (Sample.ndpMaster.step (Sample.env 10 11 [] []) (.ndp Sample.solicitation)).2 =
        [.sendNeighborAdvertisement v6Iface target na] ∧
      AdvertisesNeighbor target 0x00005e000233 (na.encode target allNodesV6McastAddr) ∧
      octets target = (Sample.solicitation.drop 8).take 16 := by
  have present : ∀ v6Iface, Sample.ndpMaster.vrouter.macVlanInterfaceV6 = some v6Iface →
      ∃ interface, (Sample.env 10 11 [] []).getInterface v6Iface = .ok interface ∧
        interface.mac = some 0x00005e000233 := by
    intro v6Iface named
    have same : Sample.ndpMaster.vrouter.macVlanInterfaceV6 =
        some (macVlanName "eth0" 51 .v6) := by decide +kernel
    rw [← Option.some.inj (same.symm.trans named)]
    exact ⟨{ name := macVlanName "eth0" 51 .v6, mac := some 0x00005e000233, ips := [] },
      by decide +kernel, rfl⟩
  exact (@solicitations_answered Sample.parseNet (Sample.config .v3 100) (Sample.parent 10)
    (Sample.ipv4 10) Sample.ndpMaster (machine.reachable_after _ _) _ _ present
    Sample.solicitation).1 (by decide +kernel)

end Failover
