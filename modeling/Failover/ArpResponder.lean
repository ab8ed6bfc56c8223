import Failover.Invariants
import Failover.NeighborWire

/-!
# Answering ARP requests

What a Master sends when it is asked for one of its addresses.
-/

namespace Failover

open Library VirtualRouter

set_option autoImplicit false

namespace VirtualRouter

/-- The request asks a Master for one of its addresses, and is not its own. -/
def OwesArpReply (vrouter : VirtualRouter) (interfaceMac : MacAddr) (arpPacket : ArpPacket) :
    Prop :=
  vrouter.fsm.state = .master ∧ arpPacket.operation = 1 ∧
    arpPacket.senderHwAddress ≠ interfaceMac ∧
    arpPacket.targetProtoAddress ∈ vrouter.ipv4Addrs

instance (vrouter : VirtualRouter) (interfaceMac : MacAddr) (arpPacket : ArpPacket) :
    Decidable (vrouter.OwesArpReply interfaceMac arpPacket) :=
  inferInstanceAs (Decidable (_ ∧ _ ∧ _ ∧ _))

end VirtualRouter

def ArpPacket.reply (request : ArpPacket) (interfaceMac : MacAddr) : ArpPacket where
  hwType := 1
  protoType := 0x0800
  hwLength := 6
  protoLength := 4
  operation := 2
  senderHwAddress := interfaceMac
  senderProtoAddress := request.targetProtoAddress
  targetHwAddress := request.senderHwAddress
  targetProtoAddress := request.senderProtoAddress

/-- One frame on the mac-vlan that a receiver reads as the reply, if one is owed, and
none otherwise. -/
def Instance.AnswersArpOnce (inst : Instance) (env : Env) (interfaceMac : MacAddr)
    (ethPacket : EthernetPacket) (request : ArpPacket) : Prop :=
  if inst.vrouter.OwesArpReply interfaceMac request then
    ∃ frame, (inst.step env (.arp ethPacket)).2 =
        [.sendPacketArp inst.vrouter.macVlanInterfaceV4 frame] ∧
      ArpPacket.decode (frame.bytes.drop ethernetHeaderLen) =
        .ok (some (request.reply interfaceMac))
  else (inst.step env (.arp ethPacket)).2 = []

namespace VirtualRouter

theorem arp_reply_decodes (interfaceMac : MacAddr) (ethPacket : EthernetPacket)
    (request : ArpPacket) :
    ArpPacket.decode ((arpReply interfaceMac ethPacket request).bytes.drop ethernetHeaderLen) =
      .ok (some (request.reply interfaceMac)) := by
  rw [arpReply, arp_frame_body]
  exact ArpPacket.decode_body _

theorem arp_unread {env : Env} {vrouter : VirtualRouter} {ethPacket : EthernetPacket}
    (unread : ArpPacket.decode ethPacket.payload = .ok none) :
    (vrouter.handleIncomingArpPkt env ethPacket).effects = [] := by
  unfold handleIncomingArpPkt
  split
  · rfl
  · simp only [unread]
    rfl

/-- The loop goes on after a match: one frame for every occurrence of the address. -/
theorem arp_answers {env : Env} {vrouter : VirtualRouter} {interface : NetworkInterface}
    (link : env.getInterface vrouter.macVlanInterfaceV4 = .ok interface)
    {interfaceMac : MacAddr} (found : interface.mac = some interfaceMac)
    {ethPacket : EthernetPacket} {request : ArpPacket}
    (read : ArpPacket.decode ethPacket.payload = .ok (some request)) :
    (vrouter.handleIncomingArpPkt env ethPacket).effects =
      if vrouter.OwesArpReply interfaceMac request then
        List.replicate (vrouter.ipv4Addrs.count request.targetProtoAddress)
          (.sendPacketArp vrouter.macVlanInterfaceV4 (arpReply interfaceMac ethPacket request))
      else [] := by
  have named : interface.name = vrouter.macVlanInterfaceV4 := (get_interface_ok link).2
  simp only [handleIncomingArpPkt, link, read, found]
  cases state : vrouter.fsm.state with
  | init => simp [OwesArpReply, state, Handled.unchanged]
  | backup => simp [OwesArpReply, state, Handled.unchanged]
  | master =>
      by_cases ignored : request.operation ≠ 1 ∨ request.senderHwAddress = interfaceMac
      · have unowed : ¬ vrouter.OwesArpReply interfaceMac request := by
          intro ⟨_, operation, other, _⟩
          exact ignored.elim (fun wrong => wrong operation) other
        simp only [if_pos ignored, if_neg unowed, Handled.unchanged]
      simp only [if_neg ignored, Handled.done, List.map_const', named]
      have occurrences : (vrouter.ipv4Addrs.filter fun ip =>
          ip = request.targetProtoAddress).length =
            vrouter.ipv4Addrs.count request.targetProtoAddress := by
        rw [← List.countP_eq_length_filter, List.count]
        rfl
      rw [occurrences]
      rw [not_or, not_not] at ignored
      by_cases configured : request.targetProtoAddress ∈ vrouter.ipv4Addrs
      · rw [if_pos ⟨state, ignored.1, ignored.2, configured⟩]
      · rw [List.count_eq_zero_of_not_mem configured]
        simp [OwesArpReply, configured]

end VirtualRouter

theorem arp_trailer_unread {body padding : List UInt8} {request : ArpPacket}
    (read : ArpPacket.decode body = .ok (some request)) (trailed : padding ≠ []) :
    ArpPacket.decode (body ++ padding) = .ok none := by
  have length := (arp_decodes_iff body).mp ⟨request, read⟩
  have longer := List.length_pos_iff.mpr trailed
  rw [ArpPacket.decode, if_pos]
  rw [List.length_append]
  omega

namespace Instance

/-- A request is answered once and correctly exactly when no reply is owed, or nothing
follows the body and the address is configured a single time. -/
theorem arp_answered_once_iff {built : VirtualRouter} {inst : Instance}
    (reachable : machine.Reachable (new built) inst) {env : Env} {interface : NetworkInterface}
    (link : env.getInterface inst.vrouter.macVlanInterfaceV4 = .ok interface)
    {interfaceMac : MacAddr} (found : interface.mac = some interfaceMac)
    {body : List UInt8} {request : ArpPacket}
    (read : ArpPacket.decode body = .ok (some request)) (source : MacAddr)
    (padding : List UInt8) :
    inst.AnswersArpOnce env interfaceMac { source, payload := body ++ padding } request ↔
      (inst.vrouter.OwesArpReply interfaceMac request →
        padding = [] ∧ inst.vrouter.ipv4Addrs.count request.targetProtoAddress = 1) := by
  have runs : RunOf built inst := run_of_reachable reachable
  by_cases owes : inst.vrouter.OwesArpReply interfaceMac request
  · have handled : (inst.step env (.arp { source, payload := body ++ padding })).2 =
        (inst.vrouter.handleIncomingArpPkt env { source, payload := body ++ padding }).effects :=
      step_effects (runs.sound_of_master owes.1) env _
    simp only [AnswersArpOnce, owes, if_true, handled, forall_const]
    by_cases bare : padding = []
    · subst bare
      rw [List.append_nil, arp_answers link found read, if_pos owes]
      constructor
      · intro ⟨frame, sent, _⟩
        have single := congrArg List.length sent
        simp only [List.length_replicate, List.length_singleton] at single
        exact ⟨rfl, single⟩
      · intro ⟨_, single⟩
        rw [single]
        exact ⟨_, rfl, arp_reply_decodes interfaceMac _ request⟩
    · rw [arp_unread (arp_trailer_unread read bare)]
      simp [bare]
  · apply iff_of_true _ fun owed => absurd owed owes
    rw [AnswersArpOnce, if_neg owes]
    cases poisoned : inst.poisoned with
    | true => rw [step_poisoned poisoned]
    | false =>
        have handled : (inst.step env (.arp { source, payload := body ++ padding })).2 =
            (inst.vrouter.handleIncomingArpPkt env { source, payload := body ++ padding }).effects :=
          step_effects poisoned env _
        rw [handled]
        by_cases bare : padding = []
        · subst bare
          rw [List.append_nil, arp_answers link found read, if_neg owes]
        · exact arp_unread (arp_trailer_unread read bare)

end Instance

namespace Sample

def arpMaster : Instance :=
  Instance.machine.after (Instance.new (router .v2 100 10))
    [(env 10 0 [] [], .notify .startup), (env 10 10 [] [], .tick)]

def arpRequest : ArpPacket where
  hwType := 1
  protoType := 0x0800
  hwLength := 6
  protoLength := 4
  operation := 1
  senderHwAddress := 0x020000000014
  senderProtoAddress := ipv4 20
  targetHwAddress := 0
  targetProtoAddress := ipv4 1

/-- The zeros that bring a frame with an ARP body to 46 bytes of payload. -/
def arpPadding : List UInt8 := List.replicate 18 0

end Sample

namespace Instance

theorem arp_request_answered :
    Sample.arpMaster.AnswersArpOnce (Sample.env 10 11 [] []) 0x00005e000133
      { source := 0x020000000014, payload := Sample.arpRequest.body ++ [] } Sample.arpRequest := by
  have link : (Sample.env 10 11 [] []).getInterface Sample.arpMaster.vrouter.macVlanInterfaceV4 =
      .ok { name := macVlanName "eth0" 51 .v4, mac := some 0x00005e000133, ips := [] } := by
    decide +kernel
  exact (@arp_answered_once_iff (Sample.router .v2 100 10) Sample.arpMaster
    (machine.reachable_after _ _) _ _ link _ rfl _ _ (ArpPacket.decode_body _) _ _).mpr
    fun _ => ⟨rfl, by decide +kernel⟩

/-- The same request in a frame of the least length goes unanswered. -/
theorem padded_arp_request_dropped :
    Sample.arpMaster.vrouter.OwesArpReply 0x00005e000133 Sample.arpRequest ∧
      ¬ Sample.arpMaster.AnswersArpOnce (Sample.env 10 11 [] []) 0x00005e000133
        { source := 0x020000000014, payload := Sample.arpRequest.body ++ Sample.arpPadding }
        Sample.arpRequest := by
  have owes : Sample.arpMaster.vrouter.OwesArpReply 0x00005e000133 Sample.arpRequest := by
    decide +kernel
  have silent : (Sample.arpMaster.step (Sample.env 10 11 [] []) (.arp
      { source := 0x020000000014
        payload := Sample.arpRequest.body ++ Sample.arpPadding })).2 = [] := by
    decide +kernel
  constructor
  · exact owes
  · rw [AnswersArpOnce, if_pos owes, silent]
    simp

end Instance

end Failover
