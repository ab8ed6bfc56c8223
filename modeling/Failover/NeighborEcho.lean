import Failover.ArpResponder
import Failover.LinkOwnership
import Failover.NdpResponder

/-!
# Neighbor messages that come back

A socket also gives what the host itself has sent on the link, and a mac-vlan hears the
other members of its group. What one of them has announced or replied must not be
answered, or the answer is answered in its turn.
-/

namespace Failover

open Library VirtualRouter

set_option autoImplicit false

/-- How a sent frame or Neighbor Advertisement reaches the tasks on the link. Frames that
are too short for the link are padded. -/
inductive Effect.Reaches : Effect → Input → Prop
  | arp (ifname : String) (arpFrame : ArpFrame) (padding : List UInt8) :
      Reaches (.sendPacketArp ifname arpFrame)
        (.arp { source := arpFrame.srcMac
                payload := arpFrame.bytes.drop ethernetHeaderLen ++ padding })
  | ndp (ifname : String) (targetAddr : Ipv6Addr) (na : NdpNeighborAdvertisement) :
      Reaches (.sendNeighborAdvertisement ifname targetAddr na)
        (.ndp (na.encode targetAddr allNodesV6McastAddr))

def Effect.RequestsArp : Effect → Prop
  | .sendPacketArp _ arpFrame => toBe arpFrame.opcode = 1
  | _ => False

def ArpFrame.packet (arpFrame : ArpFrame) : ArpPacket where
  hwType := toBe arpFrame.hardwareType
  protoType := toBe arpFrame.protocolType
  hwLength := arpFrame.hwAddrLen
  protoLength := arpFrame.protoAddrLen
  operation := toBe arpFrame.opcode
  senderHwAddress := arpFrame.senderHwAddr
  senderProtoAddress := arpFrame.senderProtoAddr
  targetHwAddress := arpFrame.targetHwAddr
  targetProtoAddress := arpFrame.targetProtoAddr

theorem to_be_to_be (value : UInt16) : toBe (toBe value) = value := by
  have bound := value.toNat_lt
  apply UInt16.toNat_inj.mp
  rw [to_be_toNat, to_be_toNat]
  omega

theorem ArpFrame.decode_bytes (arpFrame : ArpFrame) :
    ArpPacket.decode (arpFrame.bytes.drop ethernetHeaderLen) = .ok (some arpFrame.packet) := by
  have made : arpFrame = .new
      { dstMac := arpFrame.dstMac, srcMac := arpFrame.srcMac, ethertype := toBe arpFrame.ethertype }
      arpFrame.packet := by
    simp only [ArpFrame.new, ArpFrame.packet, to_be_to_be]
  rw [made, arp_frame_body, ← made]
  exact ArpPacket.decode_body _

theorem ArpFrame.decode_padded (arpFrame : ArpFrame) (padding : List UInt8) :
    ArpPacket.decode (arpFrame.bytes.drop ethernetHeaderLen ++ padding) =
        .ok (some arpFrame.packet) ∨
      ArpPacket.decode (arpFrame.bytes.drop ethernetHeaderLen ++ padding) = .ok none := by
  by_cases bare : padding = []
  · left
    rw [bare, List.append_nil]
    exact arpFrame.decode_bytes
  · right
    exact arp_trailer_unread arpFrame.decode_bytes bare

theorem advertisement_not_solicitation (na : NdpNeighborAdvertisement) (srcIp dstIp : Ipv6Addr) :
    NdpNeighborSolicitation.decode (na.encode srcIp dstIp) = .ok none := by
  obtain ⟨check0, check1, layout⟩ := na.encode_layout srcIp dstIp
  rw [NdpNeighborSolicitation.decode_eq, if_neg]
  intro ⟨_, solicits⟩
  rw [layout] at solicits
  have type : NdpNeighborAdvertisement.type = 135 := Option.some.inj solicits
  exact absurd type (by decide)

namespace VirtualRouter

variable {env : Env} {vrouter : VirtualRouter}

theorem arp_ignored {ethPacket : EthernetPacket}
    (ignored : ArpPacket.decode ethPacket.payload = .ok none ∨
      ∃ arpPacket, ArpPacket.decode ethPacket.payload = .ok (some arpPacket) ∧
        ∀ interface mac, env.getInterface vrouter.macVlanInterfaceV4 = .ok interface →
          interface.mac = some mac → arpPacket.operation ≠ 1 ∨ arpPacket.senderHwAddress = mac) :
    (vrouter.handle env (.arp ethPacket)).Idle vrouter := by
  change (vrouter.handleIncomingArpPkt env ethPacket).Idle vrouter
  unfold handleIncomingArpPkt
  split
  · exact Handled.failed_idle _ _
  rename_i interface link
  obtain unread | ⟨arpPacket, read, own⟩ := ignored
  · rw [unread]
    exact Handled.unchanged_idle _
  · simp only [read]
    split
    · exact Handled.unchanged_idle _
    rename_i mac found
    split
    · exact Handled.unchanged_idle _
    · exact Handled.unchanged_idle _
    · rw [if_pos (own interface mac link found)]
      exact Handled.unchanged_idle _

theorem ndp_ignored {payload : List UInt8}
    (unread : NdpNeighborSolicitation.decode payload = .ok none) :
    (vrouter.handle env (.ndp payload)).Idle vrouter := by
  change (vrouter.handleIncomingNdpPkt env payload).Idle vrouter
  unfold handleIncomingNdpPkt
  split
  · exact Handled.unchanged_idle _
  split
  · exact Handled.unchanged_idle _
  · rw [unread]
    exact Handled.unchanged_idle _

/-- A reply, an advertisement, or an announcement from the virtual MAC address of the
group gets no answer. -/
theorem reached_idle (sees : vrouter.SeesVirtualMacs env) {effect : Effect} {input : Input}
    (reaches : effect.Reaches input) {sender : VirtualRouter} (within : effect.Within sender)
    (grouped : effect.RequestsArp → sender.vrid = vrouter.vrid) :
    (vrouter.handle env input).Idle vrouter := by
  cases reaches with
  | ndp ifname targetAddr na => exact ndp_ignored (advertisement_not_solicitation na _ _)
  | arp ifname arpFrame padding =>
      obtain ⟨_, _, source, virtual⟩ := within
      apply arp_ignored
      obtain read | unread := arpFrame.decode_padded padding
      · right
        refine ⟨arpFrame.packet, read, ?_⟩
        intro interface mac link found
        by_cases requests : toBe arpFrame.opcode = 1
        · right
          have same : octets arpFrame.senderHwAddr = octets mac := by
            rw [source, virtual, grouped requests, sees.virtual .v4 rfl link found]
          change arpFrame.senderHwAddr = mac
          have whole : 48 % 8 = 0 := by rfl
          rw [← of_bytes_octets whole arpFrame.senderHwAddr, same, of_bytes_octets whole]
        · left
          exact requests
      · left
        exact unread

end VirtualRouter

/-- The input is a frame or a Neighbor Advertisement that an instance of some host has
sent, and if the frame is a request then an instance of this VRID has sent it. -/
def Input.SentNearby (fromStr : String → Option IpNet) (vrid : UInt8) (input : Input) : Prop :=
  ∃ (conf : ℕ → Config) (host : Host) (past : List (Occurrence ℕ)) (name : ℕ)
    (now setAt : Instant) (move : Move) (effect : Effect),
    effect ∈ (Daemon.machine.step (Daemon.machine.after (Daemon.start fromStr conf host) past)
      (.run name now setAt move)).2 ∧
    effect.Reaches input ∧ (effect.RequestsArp → (conf name).vrid = vrid)

namespace Session

variable {fromStr : String → Option IpNet} {conf : Config} {host : Host} {session : Session}

theorem neighbor_input {effect : Effect} {input : Input} (reaches : effect.Reaches input)
    (env : Env) (inst : Instance) :
    inst.timerSurvives env input = true ∧ input ≠ .notify .shutdown := by
  cases reaches with
  | arp => exact ⟨rfl, fun wrong => nomatch wrong⟩
  | ndp => exact ⟨rfl, fun wrong => nomatch wrong⟩

theorem Ready.echo_idle (ready : Ready fromStr conf host session) {input : Input}
    (sent : input.SentNearby fromStr conf.vrid) (now setAt : Instant) :
    session.step host now setAt (.handle input) = (host, session, []) := by
  obtain ⟨others, start, past, name, sentAt, armedAt, move, effect, emitted, reaches, grouped⟩ :=
    sent
  have sender := (Daemon.ready_after start past : Daemon.Ready fromStr others _) name
  have call := sender.calls sentAt armedAt move effect emitted
  have announces := (prepares_linked call.1).2.1
  cases phase : session.phase with
  | serving timer leaving =>
      obtain ⟨survives, other⟩ := neighbor_input reaches (host.env now setAt) session.inst
      by_cases task : input.HasTask session.inst.vrouter.version timer = true
      · have runs : session.phase = .startup ∨ session.phase.serves = true :=
          .inr (by rw [phase]; rfl)
        have vrid := (prepares_linked (ready.prepares runs)).2.1
        have idle : session.inst.step (host.env now setAt) input = (session.inst, []) := by
          apply Instance.step_of_idle
          intro _
          apply reached_idle (ready.sees runs now setAt) reaches call.2.1
          intro requests
          rw [announces, vrid, grouped requests]
        have unstopped : ¬ (input = .notify .shutdown ∧ leaving = false) := fun stop => other stop.1
        simp only [Session.step, phase, if_neg unstopped, if_pos task, serve, idle, survives,
          Bool.and_true]
        rw [← phase]
        rfl
      · simp [Session.step, phase, task, other]
  | _ => simp only [Session.step, phase]

end Session

namespace Daemon

variable {Name : Type*} [DecidableEq Name]

/-- Some of the frames and messages that the tasks of a host bring come from instances of
the network, each frame that is a request from the group of the instance it is brought
to. Without them the run is the same, for the host and for every call. -/
theorem neighbor_echoes_inert (fromStr : String → Option IpNet) (conf : Name → Config)
    (host : Host) {echo : Occurrence Name → Bool}
    (sent : ∀ occurrence, echo occurrence = true → ∃ name now setAt input,
      occurrence = .run name now setAt (.handle input) ∧
        input.SentNearby fromStr (conf name).vrid)
    (occurrences : List (Occurrence Name)) :
    machine.run (start fromStr conf host) (occurrences.filter fun occurrence => !echo occurrence) =
      machine.run (start fromStr conf host) occurrences := by
  apply machine.run_filter
  apply machine.all_steps_of_invariant (Ready fromStr conf) ready_step _ (start_ready host)
  intro daemon occurrence ready dropped
  have echoed : echo occurrence = true := by simpa using dropped
  obtain ⟨name, now, setAt, input, rfl, nearby⟩ := sent occurrence echoed
  simp only [machine, (ready name).echo_idle nearby, Function.update_eq_self]

end Daemon

namespace Sample

/-- What the owner of 10.0.0.1 announces when it starts. -/
def announcement : ArpFrame := gratuitousArp 0x00005e000133 (ipv4 1)

def loopedBack : Occurrence Unit :=
  .run () 1 1 (.handle (.arp
    { source := announcement.srcMac
      payload := announcement.bytes.drop ethernetHeaderLen ++ [] }))

end Sample

namespace Daemon

theorem own_announcement_ignored :
    machine.run (start Sample.parseNet (fun _ : Unit => Sample.config .v2 255) Sample.host)
        ((Sample.startsAlone ++ [Sample.loopedBack]).filter fun occurrence =>
          !decide (occurrence = Sample.loopedBack)) =
      machine.run (start Sample.parseNet (fun _ : Unit => Sample.config .v2 255) Sample.host)
        (Sample.startsAlone ++ [Sample.loopedBack]) := by
  have nearby : ∀ occurrence, decide (occurrence = Sample.loopedBack) = true →
      ∃ name now setAt input, occurrence = .run name now setAt (.handle input) ∧
        input.SentNearby Sample.parseNet 51 := by
    intro occurrence same
    refine ⟨_, _, _, _, of_decide_eq_true same, fun _ => Sample.config .v2 255, Sample.host,
      List.replicate 3 (.run 0 0 0 .advance), 0, 0, 0, .advance,
      .sendPacketArp (macVlanName "eth0" 51 .v4) Sample.announcement, ?_, .arp _ _ _, fun _ => rfl⟩
    decide +kernel
  exact neighbor_echoes_inert Sample.parseNet (fun _ : Unit => Sample.config .v2 255) Sample.host
    nearby _

end Daemon

end Failover
