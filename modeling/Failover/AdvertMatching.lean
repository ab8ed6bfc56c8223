import Failover.Isolation
import Mathlib.Data.List.Perm.Subperm

/-!
# Advertisements that take effect

A packet that passes the checks lists as many addresses as are configured, and
configured ones only. That makes the two lists the same in some order unless the
packet repeats an address.
-/

namespace Failover

open Library VirtualRouter

set_option autoImplicit false

def VrrpAddresses.ips : VrrpAddresses → List IpAddr
  | .v4 addrs => addrs.map .v4
  | .v6 addrs => addrs.map .v6

namespace VirtualRouter

def ips (vrouter : VirtualRouter) (family : AddressFamily) : List IpAddr :=
  (vrouter.nets family).map IpNet.addr

structure MatchesConfig (vrouter : VirtualRouter) (payload : List UInt8) (srcIp dstIp : IpAddr)
    (ttl : UInt8) (packet : VrrpPacket) : Prop where
  decoded : VrrpPacket.decode payload srcIp dstIp = .ok packet
  vrid : packet.vrid = vrouter.vrid
  interval : packet.adverIntCs = vrouter.advertInterval.toUInt16 * 100
  ttl : ttl = 255
  addresses : packet.priority = 255 ∨
    packet.addresses.ips.Perm (vrouter.ips packet.addresses.family)

/-- An address that the packet lists more often than it is configured. -/
def Overlists (vrouter : VirtualRouter) (packet : VrrpPacket) : Prop :=
  ∃ ip, (vrouter.ips packet.addresses.family).count ip < packet.addresses.ips.count ip

/-- The states and priorities for which the dispatch has a branch that acts. -/
def Reacts (vrouter : VirtualRouter) (packet : VrrpPacket) : Prop :=
  vrouter.fsm.state = .backup ∨
    vrouter.fsm.state = .master ∧
      (packet.priority = 0 ∨ vrouter.priority ≤ packet.priority)

end VirtualRouter

/-- `process_vrrp_packet` behind the lock: a poisoned one drops the packet. -/
def Instance.processVrrpPacket (inst : Instance) (env : Env) (payload : List UInt8)
    (srcIp dstIp : IpAddr) (ttl : UInt8) : Handled :=
  if inst.poisoned then .unchanged inst.vrouter
  else inst.vrouter.processVrrpPacket env payload srcIp dstIp ttl

/-- Whatever the clock and the interfaces show, the packet takes effect only if it
matches the configuration. -/
def Instance.ActsOnMatches (inst : Instance) (payload : List UInt8) (srcIp dstIp : IpAddr)
    (ttl : UInt8) : Prop :=
  ∀ env, ¬ (inst.processVrrpPacket env payload srcIp dstIp ttl).Idle inst.vrouter →
    ∃ packet, inst.vrouter.MatchesConfig payload srcIp dstIp ttl packet

namespace VirtualRouter

theorem ips_v4 (vrouter : VirtualRouter) : vrouter.ips .v4 = vrouter.ipv4Addrs.map .v4 := by
  simp [ips, nets, strIpv4Addresses, ipv4Addrs, IpNet.addr]

theorem ips_v6 (vrouter : VirtualRouter) : vrouter.ips .v6 = vrouter.ipv6Addrs.map .v6 := by
  simp [ips, nets, strIpv6Addresses, ipv6Addrs, IpNet.addr]

theorem address_checks_count (vrouter : VirtualRouter) (addresses : VrrpAddresses) :
    (vrouter.addressChecks addresses).1 = true ↔
      addresses.ips.length = (vrouter.ips addresses.family).length := by
  cases addresses with
  | v4 addrs =>
      simp [addressChecks, VrrpAddresses.ips, VrrpAddresses.family, ips_v4, ipv4Addrs]
  | v6 addrs =>
      simp [addressChecks, VrrpAddresses.ips, VrrpAddresses.family, ips_v6, ipv6Addrs]

theorem address_checks_listed (vrouter : VirtualRouter) (addresses : VrrpAddresses) :
    (vrouter.addressChecks addresses).2.1 = true ↔
      addresses.ips ⊆ vrouter.ips addresses.family := by
  cases addresses with
  | v4 addrs =>
      simp [addressChecks, VrrpAddresses.ips, VrrpAddresses.family, ips_v4, List.subset_def]
  | v6 addrs =>
      simp [addressChecks, VrrpAddresses.ips, VrrpAddresses.family, ips_v6, List.subset_def]

theorem verify_ok_iff (vrouter : VirtualRouter) (packet : VrrpPacket) (ttl : UInt8) :
    vrouter.verifyVrrpPacket packet ttl = .ok () ↔
      ttl = 255 ∧ packet.vrid = vrouter.vrid ∧
        packet.adverIntCs = vrouter.advertInterval.toUInt16 * 100 ∧
        (packet.priority = 255 ∨
          packet.addresses.ips.length = (vrouter.ips packet.addresses.family).length ∧
            packet.addresses.ips ⊆ vrouter.ips packet.addresses.family) := by
  rw [← address_checks_count, ← address_checks_listed]
  by_cases badTtl : ttl = 255
  · by_cases vrid : packet.vrid = vrouter.vrid
    · by_cases interval : packet.adverIntCs = vrouter.advertInterval.toUInt16 * 100
      · by_cases owner : packet.priority = 255
        · simp [verifyVrrpPacket, badTtl, vrid, interval, owner]
        · cases count : (vrouter.addressChecks packet.addresses).1 <;>
            cases listed : (vrouter.addressChecks packet.addresses).2.1 <;>
              simp [verifyVrrpPacket, badTtl, vrid, interval, owner, count, listed]
      · simp [verifyVrrpPacket, badTtl, vrid, interval]
    · simp [verifyVrrpPacket, badTtl, vrid]
  · simp [verifyVrrpPacket, badTtl]

/-- A list of the same length is a reordering when no item is repeated beyond the
number of times the other list has it. -/
theorem perm_iff_count_le {Item : Type} [DecidableEq Item] {left right : List Item}
    (length : left.length = right.length) :
    left.Perm right ↔ ∀ item, left.count item ≤ right.count item := by
  constructor
  · intro same item
    exact (same.count_eq item).le
  · intro bounded
    exact (List.subperm_iff_count.mpr bounded).perm_of_length_le length.ge

theorem matches_of_accepted {vrouter : VirtualRouter} {payload : List UInt8}
    {srcIp dstIp : IpAddr} {ttl : UInt8} {packet : VrrpPacket}
    (accepted : vrouter.accept payload srcIp dstIp ttl = some packet)
    (fair : packet.priority = 255 ∨ ¬ vrouter.Overlists packet) :
    vrouter.MatchesConfig payload srcIp dstIp ttl packet := by
  obtain ⟨decoded, verified, _⟩ := accept_decoded accepted
  obtain ⟨hops, vrid, interval, listed⟩ := (vrouter.verify_ok_iff packet ttl).mp verified
  refine ⟨decoded, vrid, interval, hops, ?_⟩
  rcases listed with owner | ⟨length, _⟩
  · exact .inl owner
  apply fair.imp_right
  intro once
  rw [perm_iff_count_le length]
  exact fun ip => Nat.le_of_not_lt fun more => once ⟨ip, more⟩

theorem not_matches_of_overlists {vrouter : VirtualRouter} {payload : List UInt8}
    {srcIp dstIp : IpAddr} {ttl : UInt8} {packet : VrrpPacket}
    (accepted : vrouter.accept payload srcIp dstIp ttl = some packet)
    (other : packet.priority ≠ 255) (overlists : vrouter.Overlists packet) :
    ¬ ∃ found, vrouter.MatchesConfig payload srcIp dstIp ttl found := by
  intro ⟨found, matching⟩
  have same : found = packet :=
    Outcome.ok.inj (matching.decoded.symm.trans (accept_decoded accepted).1)
  subst same
  obtain ⟨ip, more⟩ := overlists
  have equal := (matching.addresses.resolve_left other).count_eq ip
  omega

theorem deadline_moves (vrouter : VirtualRouter) (duration : ℚ) :
    ∃ now, vrouter.withFsm (vrouter.fsm.setMasterDownTimer now duration) ≠ vrouter := by
  refine ⟨vrouter.fsm.timer.waitingFor.getD 0 + 1 - duration, ?_⟩
  intro same
  have deadline := congrArg (fun router => router.fsm.timer.waitingFor) same
  simp only [with_fsm_fsm, VirtualRouterMachine.set_master_down_timer_timer] at deadline
  rw [← deadline, Option.getD_some] at deadline
  have apart := Option.some.inj deadline
  linarith

theorem dispatch_idle {vrouter : VirtualRouter} {packet : VrrpPacket}
    (still : ¬ vrouter.Reacts packet) (env : Env) (iface : String) (addresses : List IpNet) :
    vrouter.dispatchVrrpPacket env packet iface addresses = .unchanged vrouter := by
  simp only [Reacts, not_or, not_and] at still
  cases state : vrouter.fsm.state with
  | init => simp only [dispatchVrrpPacket, state]
  | backup => exact absurd state still.1
  | master =>
      obtain ⟨positive, lower⟩ := still.2 state
      rw [UInt8.not_le] at lower
      have notGreater : ¬ vrouter.priority < packet.priority := UInt8.lt_asymm lower
      have notEqual : packet.priority ≠ vrouter.priority := UInt8.ne_of_lt lower
      simp only [dispatchVrrpPacket, state, if_neg positive, if_neg notGreater, if_neg notEqual]

theorem process_dispatches {vrouter : VirtualRouter} {payload : List UInt8}
    {srcIp dstIp : IpAddr} {ttl : UInt8} {packet : VrrpPacket} {iface : String}
    (accepted : vrouter.accept payload srcIp dstIp ttl = some packet)
    (link : vrouter.macVlan packet.addresses.family = some iface) (env : Env) :
    vrouter.processVrrpPacket env payload srcIp dstIp ttl =
      vrouter.dispatchVrrpPacket env packet iface (vrouter.nets packet.addresses.family) := by
  obtain ⟨other, same, processed⟩ := process_accepted env accepted
  rw [Option.some.inj (link.symm.trans same)]
  exact processed

theorem dispatch_acts {vrouter : VirtualRouter} {packet : VrrpPacket}
    (reacts : vrouter.Reacts packet) (iface : String) (addresses : List IpNet) :
    ∃ env, ¬ (vrouter.dispatchVrrpPacket env packet iface addresses).Idle vrouter := by
  have calls {handled : Handled} (made : handled.effects ≠ []) : ¬ handled.Idle vrouter :=
    fun idle => made idle.2.1
  let clock (now : Instant) : Env := { interfaces := [], now, setAt := now }
  cases state : vrouter.fsm.state with
  | init => simp [Reacts, state] at reacts
  | backup =>
      by_cases leaving : packet.priority = 0
      · obtain ⟨now, moved⟩ := vrouter.deadline_moves vrouter.skewTime
        refine ⟨clock now, fun idle => moved ?_⟩
        simp only [dispatchVrrpPacket, state, if_pos leaving] at idle
        exact idle.1
      by_cases superior : vrouter.preemptMode = false ∨ vrouter.priority ≤ packet.priority
      · obtain ⟨now, moved⟩ := vrouter.deadline_moves vrouter.masterDownInterval
        refine ⟨clock now, fun idle => moved ?_⟩
        simp only [dispatchVrrpPacket, state, if_neg leaving, if_pos superior] at idle
        exact idle.1
      · have lower : packet.priority < vrouter.priority := by
          rw [not_or, UInt8.not_le] at superior
          exact superior.2
        apply Exists.intro (clock 0)
        apply calls
        simp [dispatchVrrpPacket, state, leaving, superior, lower, Handled.done]
  | master =>
      apply Exists.intro (clock 0)
      apply calls
      have answers : packet.priority = 0 ∨ vrouter.priority ≤ packet.priority := by
        simpa [Reacts, state] using reacts
      by_cases leaving : packet.priority = 0
      · simp [dispatchVrrpPacket, state, leaving, Handled.done, sendAdvertisement]
      by_cases greater : vrouter.priority < packet.priority
      · simp [dispatchVrrpPacket, state, leaving, greater, Handled.before]
      · have equal : packet.priority = vrouter.priority :=
          UInt8.le_antisymm (UInt8.not_lt.mp greater) (answers.resolve_left leaving)
        simp only [dispatchVrrpPacket, state, if_neg leaving, if_neg greater, if_pos equal]
        simp [Handled.before]

end VirtualRouter

theorem Instance.process_sound {inst : Instance} (sound : inst.poisoned = false) {env : Env}
    {payload : List UInt8} {srcIp dstIp : IpAddr} {ttl : UInt8} :
    inst.processVrrpPacket env payload srcIp dstIp ttl =
      inst.vrouter.processVrrpPacket env payload srcIp dstIp ttl := by
  rw [processVrrpPacket, sound]
  rfl

/-- Only packets that match the configuration take effect, exactly when no packet that
passes the checks lists an address more often than it is configured and reaches a
branch that acts. -/
theorem Instance.acts_on_matches_iff (inst : Instance) (payload : List UInt8)
    (srcIp dstIp : IpAddr) (ttl : UInt8) :
    inst.ActsOnMatches payload srcIp dstIp ttl ↔
      ∀ packet, inst.poisoned = false →
        inst.vrouter.accept payload srcIp dstIp ttl = some packet →
        inst.vrouter.Reacts packet →
          packet.priority = 255 ∨ ¬ inst.vrouter.Overlists packet := by
  constructor
  · intro acts packet sound accepted reacts
    by_contra unfair
    rw [not_or, not_not] at unfair
    obtain ⟨iface, link⟩ := Option.isSome_iff_exists.mp (accept_decoded accepted).2.2
    obtain ⟨env, active⟩ := dispatch_acts reacts iface
      (inst.vrouter.nets packet.addresses.family)
    apply not_matches_of_overlists accepted unfair.1 unfair.2
    apply acts env
    rw [process_sound sound, process_dispatches accepted link]
    exact active
  · intro fair env active
    cases poisoned : inst.poisoned with
    | true =>
        simp only [processVrrpPacket, poisoned, if_true] at active
        exact absurd (Handled.unchanged_idle inst.vrouter) active
    | false =>
        rw [process_sound poisoned] at active
        cases accepted : inst.vrouter.accept payload srcIp dstIp ttl with
        | none =>
            rw [process_unaccepted env accepted] at active
            exact absurd (Handled.unchanged_idle inst.vrouter) active
        | some packet =>
            by_cases reacts : inst.vrouter.Reacts packet
            · exact ⟨packet, matches_of_accepted accepted (fair packet poisoned accepted reacts)⟩
            · obtain ⟨iface, _, processed⟩ := process_accepted env accepted
              rw [processed, dispatch_idle reacts] at active
              exact absurd (Handled.unchanged_idle inst.vrouter) active

theorem Instance.step_matches {inst : Instance} {env : Env} {input : Input}
    {payload : List UInt8} {srcIp dstIp : IpAddr} {ttl : UInt8}
    (handles : inst.vrouter.handle env input = .unchanged inst.vrouter ∨
      inst.vrouter.handle env input =
        inst.vrouter.processVrrpPacket env payload srcIp dstIp ttl)
    (acts : inst.ActsOnMatches payload srcIp dstIp ttl)
    (changes : inst.step env input ≠ (inst, [])) :
    ∃ advert, inst.vrouter.MatchesConfig payload srcIp dstIp ttl advert := by
  apply acts env
  intro idle
  apply changes
  apply step_of_idle
  intro sound
  rw [process_sound sound] at idle
  rcases handles with dropped | processed
  · rw [dropped]
    exact Handled.unchanged_idle inst.vrouter
  · rw [processed]
    exact idle

theorem Instance.vrrp_v4_step_matches {inst : Instance} {env : Env} {packet : Ipv4Packet}
    (acts : inst.ActsOnMatches packet.payload (.v4 packet.source) (.v4 packet.destination)
      packet.ttl)
    (changes : inst.step env (.vrrpV4 packet) ≠ (inst, [])) :
    ∃ advert, inst.vrouter.MatchesConfig packet.payload (.v4 packet.source)
      (.v4 packet.destination) packet.ttl advert := by
  apply step_matches _ acts changes
  simp only [VirtualRouter.handle, handleIncomingVrrpV4Pkt]
  split
  · exact .inl rfl
  · exact .inr rfl

theorem Instance.vrrp_v6_step_matches {inst : Instance} {env : Env} {payload : List UInt8}
    {srcIp : Ipv6Addr}
    (acts : inst.ActsOnMatches payload (.v6 srcIp) (.v6 vrrpV6McastAddr) 255)
    (changes : inst.step env (.vrrpV6 payload srcIp) ≠ (inst, [])) :
    ∃ advert, inst.vrouter.MatchesConfig payload (.v6 srcIp) (.v6 vrrpV6McastAddr) 255
      advert := by
  apply step_matches _ acts changes
  simp only [VirtualRouter.handle, handleIncomingVrrpV6Pkt]
  split
  · exact .inl rfl
  · exact .inr rfl

namespace Sample

def pairConfig : Config :=
  { config .v2 100 with ipAddresses := ["192.0.2.1/24", "192.0.2.2/24"] }

def pairMaster : Instance :=
  Instance.machine.after
    (Instance.new ((configToVr parsePair pairConfig).prepare (parent 10) (ipv4 10)))
    [(env 10 0 [] [], .notify .startup), (env 10 10 [] [], .tick)]

def repeatingAdvert : VrrpPacket :=
  { pairMaster.vrouter.advertisement (.v4 [ipv4 1, ipv4 1]) with priority := 150 }

end Sample

/-- A Master steps down on an advertisement that does not list its second address. -/
theorem repeating_advert_accepted :
    validateConfigs Sample.parsePair [Sample.pairConfig] = .ok () ∧
      Sample.pairMaster.vrouter.fsm.state = .master ∧
      ¬ Sample.pairMaster.ActsOnMatches (Sample.repeatingAdvert.encode (.v4 (Sample.ipv4 20)))
        (.v4 (Sample.ipv4 20)) (.v4 vrrpMcastAddr) 255 := by
  refine ⟨by rfl, by decide +kernel, ?_⟩
  intro acts
  obtain ⟨packet, matching⟩ := acts (Sample.env 10 11 [] []) (by decide +kernel)
  have decoded : VrrpPacket.decode (Sample.repeatingAdvert.encode (.v4 (Sample.ipv4 20)))
      (.v4 (Sample.ipv4 20)) (.v4 vrrpMcastAddr) = .ok Sample.repeatingAdvert := by
    decide +kernel
  have same := Outcome.ok.inj (matching.decoded.symm.trans decoded)
  rcases matching.addresses with owner | reordered
  · rw [same] at owner
    exact absurd owner (by decide +kernel)
  · rw [same] at reordered
    exact absurd reordered (by decide +kernel)

end Failover
