import Failover.Cluster
import Failover.LinkOwnership
import Failover.NdpResponder
import Failover.PacketFormat

/-!
# Receive buffers

The listeners receive into buffers of a fixed size, and the kernel cuts off what does
not fit. The headers are read by `pnet`, of which only that they stand in front of the
payload is used.
-/

namespace Failover

open Library VirtualRouter

set_option autoImplicit false

def vrrpBufLen : Nat := 512
def arpBufLen : Nat := 128
def ndpBufLen : Nat := 128

/-- What the kernel has for one of the listeners. It hands an ARP listener the frames
that the host sends as well, and marks them. -/
inductive Datagram where
  | vrrpV4 (data : List UInt8)
  | vrrpV6 (data : List UInt8) (srcIp : Ipv6Addr)
  | arp (data : List UInt8) (outgoing : Bool)
  | ndp (data : List UInt8)
  deriving DecidableEq

/-- `Ipv4Packet::new` and `EthernetPacket::new`. -/
structure Pnet where
  ipv4 : List UInt8 → Option Ipv4Packet
  ethernet : List UInt8 → Option EthernetPacket

/-- Cutting off the end of a datagram cuts off the end of its payload. An IPv4 header
with all its options has 60 bytes. -/
structure Pnet.HeadersFirst (pnet : Pnet) : Prop where
  ipv4 : ∀ data, ∃ headerLen ≤ 60, ∀ limit, 60 ≤ limit →
    pnet.ipv4 (data.take limit) = (pnet.ipv4 data).map fun packet =>
      { packet with payload := packet.payload.take (limit - headerLen) }
  ethernet : ∀ data limit, ethernetHeaderLen ≤ limit →
    pnet.ethernet (data.take limit) = (pnet.ethernet data).map fun packet =>
      { packet with payload := packet.payload.take (limit - ethernetHeaderLen) }

namespace Datagram

def received : Datagram → Datagram
  | vrrpV4 data => vrrpV4 (data.take vrrpBufLen)
  | vrrpV6 data srcIp => vrrpV6 (data.take vrrpBufLen) srcIp
  | arp data outgoing => arp (data.take arpBufLen) outgoing
  | ndp data => ndp (data.take ndpBufLen)

def input (pnet : Pnet) : Datagram → Option Input
  | vrrpV4 data => (pnet.ipv4 data).map .vrrpV4
  | vrrpV6 data srcIp => some (.vrrpV6 data srcIp)
  | arp data outgoing => if outgoing then none else (pnet.ethernet data).map .arp
  | ndp data => some (.ndp data)

end Datagram

/-- An occurrence on a host, or a datagram for a listener of one of its instances. -/
inductive Arrival (Name : Type*) where
  | occurs (occurrence : Occurrence Name)
  | receives (name : Name) (now setAt : Instant) (datagram : Datagram)

namespace Arrival

variable {Name : Type*}

def received : Arrival Name → Arrival Name
  | occurs occurrence => occurs occurrence
  | receives name now setAt datagram => receives name now setAt datagram.received

def occurrence (pnet : Pnet) : Arrival Name → Option (Occurrence Name)
  | occurs occurrence => some occurrence
  | receives name now setAt datagram =>
      (datagram.input pnet).map fun input => .run name now setAt (.handle input)

end Arrival

/-- Two inputs of one task that its handler does not tell apart. -/
structure Input.Alike (left right : Input) : Prop where
  task : ∀ version timer, left.HasTask version timer = right.HasTask version timer
  handled : ∀ env vrouter, VirtualRouter.handle env vrouter left =
    VirtualRouter.handle env vrouter right
  survives : ∀ (inst : Instance) env, inst.timerSurvives env left = inst.timerSurvives env right
  notifies : ∀ event, left = .notify event ↔ right = .notify event

namespace VrrpPacket

def lengthBound : Nat := fixedHeaderLen + 16 * maxIpCount + v2AuthTrailerLen

theorem decode_length_le {data : List UInt8} {srcIp dstIp : IpAddr} {packet : VrrpPacket}
    (decoded : decode data srcIp dstIp = .ok packet) : data.length ≤ lengthBound := by
  have framed_le {ends : Endpoints} (framed : ends.Framed data) : data.length ≤ lengthBound := by
    have width : ends.addressLen ≤ 16 := by
      cases ends with
      | v4 src dst => exact Nat.le_of_ble_eq_true rfl
      | v6 src dst => exact Nat.le_refl 16
    have entries : ends.addressLen * countByte data ≤ 16 * 16 :=
      Nat.mul_le_mul width framed.count
    have bound : lengthBound = 272 := by rfl
    rw [framed.length, bound]
    split_ifs <;> omega
  match srcIp, dstIp with
  | .v4 src, dst =>
      have read : decode data (Endpoints.v4 src dst).srcIp (Endpoints.v4 src dst).dstIp =
          .ok packet := decoded
      exact framed_le ((Endpoints.decode_ok_iff_framed _ data packet).mp read).1
  | .v6 src, .v6 dst =>
      have read : decode data (Endpoints.v6 src dst).srcIp (Endpoints.v6 src dst).dstIp =
          .ok packet := decoded
      exact framed_le ((Endpoints.decode_ok_iff_framed _ data packet).mp read).1
  | .v6 src, .v4 dst => contradiction

end VrrpPacket

namespace VirtualRouter

variable {env : Env} {vrouter : VirtualRouter}

/-- What is too long for the decoders is still too long when it is cut off. -/
theorem process_take (data : List UInt8) (srcIp dstIp : IpAddr) (ttl : UInt8) {limit : Nat}
    (fits : VrrpPacket.lengthBound < limit) :
    vrouter.processVrrpPacket env (data.take limit) srcIp dstIp ttl =
      vrouter.processVrrpPacket env data srcIp dstIp ttl := by
  by_cases short : data.length ≤ limit
  · rw [List.take_of_length_le short]
  have dropped {message : List UInt8} (long : limit ≤ message.length) :
      vrouter.processVrrpPacket env message srcIp dstIp ttl = .unchanged vrouter := by
    unfold processVrrpPacket
    split
    · rename_i panicked
      exact absurd panicked (VrrpPacket.decode_ne_panicked _ _ _)
    · rfl
    · rename_i packet decoded
      have bounded := VrrpPacket.decode_length_le decoded
      omega
  have cut : (data.take limit).length = limit := by
    rw [List.length_take]
    omega
  rw [dropped cut.ge, dropped (Nat.le_of_not_le short)]

theorem vrrp_v4_take (packet : Ipv4Packet) {limit : Nat}
    (fits : VrrpPacket.lengthBound < limit) :
    vrouter.handleIncomingVrrpV4Pkt env { packet with payload := packet.payload.take limit } =
      vrouter.handleIncomingVrrpV4Pkt env packet := by
  simp only [handleIncomingVrrpV4Pkt, process_take packet.payload _ _ _ fits]

theorem arp_take (packet : EthernetPacket) {limit : Nat} (fits : 28 < limit) :
    vrouter.handleIncomingArpPkt env { packet with payload := packet.payload.take limit } =
      vrouter.handleIncomingArpPkt env packet := by
  have same : ArpPacket.decode (packet.payload.take limit) = ArpPacket.decode packet.payload := by
    by_cases short : packet.payload.length ≤ limit
    · rw [List.take_of_length_le short]
    · rw [ArpPacket.decode, ArpPacket.decode, if_pos, if_pos]
      · omega
      · rw [List.length_take]
        omega
  simp only [handleIncomingArpPkt, same]
  rfl

end VirtualRouter

theorem NdpNeighborSolicitation.decode_take (data : List UInt8) {limit : Nat} (fits : 24 ≤ limit) :
    decode (data.take limit) = decode data := by
  have long : 24 ≤ (data.take limit).length ↔ 24 ≤ data.length := by
    rw [List.length_take]
    omega
  have type : (data.take limit)[0]? = data[0]? := List.getElem?_take_of_lt (by omega)
  have target : targetAt (data.take limit) = targetAt data := by
    have inside : min 16 (limit - 8) = 16 := by omega
    rw [targetAt, targetAt, List.drop_take, List.take_take, inside]
  rw [decode_eq, decode_eq, type, target]
  simp only [long]

namespace Datagram

variable {pnet : Pnet}

theorem received_alike (headers : pnet.HeadersFirst) (datagram : Datagram) :
    Option.Rel Input.Alike (datagram.received.input pnet) (datagram.input pnet) := by
  have notifies {left right : Input} (first : ∀ event, left ≠ .notify event)
      (second : ∀ event, right ≠ .notify event) (event : Event) :
      left = .notify event ↔ right = .notify event :=
    iff_of_false (first event) (second event)
  cases datagram with
  | vrrpV4 data =>
      obtain ⟨headerLen, bounded, cut⟩ := headers.ipv4 data
      simp only [received, input, cut vrrpBufLen (by decide)]
      cases pnet.ipv4 data with
      | none => exact .none
      | some packet =>
          refine .some ⟨fun _ _ => rfl, ?_, fun _ _ => rfl,
            notifies (by simp) (by simp)⟩
          intro env vrouter
          apply vrrp_v4_take
          have bound : VrrpPacket.lengthBound + 60 < vrrpBufLen := by decide
          omega
  | vrrpV6 data srcIp =>
      refine .some ⟨fun _ _ => rfl, ?_, fun _ _ => rfl,
        notifies (by simp) (by simp)⟩
      intro env vrouter
      simp only [handle, handleIncomingVrrpV6Pkt, process_take data _ _ _
        (show _ < vrrpBufLen by decide)]
  | arp data outgoing =>
      cases outgoing with
      | true => exact .none
      | false =>
          simp only [received, input, headers.ethernet data arpBufLen (by decide),
            Bool.false_eq_true, if_false]
          cases pnet.ethernet data with
          | none => exact .none
          | some packet =>
              refine .some ⟨fun _ _ => rfl, ?_, fun _ _ => rfl,
                notifies (by simp) (by simp)⟩
              intro env vrouter
              exact arp_take packet (by decide)
  | ndp data =>
      refine .some ⟨fun _ _ => rfl, ?_, fun _ _ => rfl,
        notifies (by simp) (by simp)⟩
      intro env vrouter
      simp only [handle, handleIncomingNdpPkt, NdpNeighborSolicitation.decode_take data
        (show 24 ≤ ndpBufLen by decide)]

end Datagram

theorem Session.step_alike {left right : Input} (alike : left.Alike right) (host : Host)
    (now setAt : Instant) (session : Session) :
    session.step host now setAt (.handle left) = session.step host now setAt (.handle right) := by
  have same (env : Env) : session.inst.step env left = session.inst.step env right := by
    simp only [Instance.step, alike.handled]
  cases phase : session.phase with
  | serving timer leaving =>
      simp only [step, phase, serve, same, alike.task, alike.survives, alike.notifies]
  | _ => simp only [step, phase]

namespace Daemon

variable {Name : Type*} [DecidableEq Name]

/-- The buffers are large enough: whatever the listeners of any instances are sent, a run
on what their buffers take is the run on the complete datagrams. -/
theorem receive_buffers_suffice {pnet : Pnet} (headers : pnet.HeadersFirst)
    (daemon : Daemon Name) (arrivals : List (Arrival Name)) :
    machine.run daemon (arrivals.filterMap fun arrival => arrival.received.occurrence pnet) =
      machine.run daemon (arrivals.filterMap (Arrival.occurrence pnet)) := by
  apply machine.run_filter_map_congr
  intro arrival
  cases arrival with
  | occurs occurrence => exact .some fun _ => rfl
  | receives name now setAt datagram =>
      have alike := datagram.received_alike headers
      simp only [Arrival.received, Arrival.occurrence]
      generalize datagram.received.input pnet = left at alike ⊢
      generalize datagram.input pnet = right at alike ⊢
      cases alike with
      | none => exact .none
      | some same =>
          apply Option.Rel.some
          intro before
          simp only [machine, Session.step_alike same]

end Daemon

namespace Sample

/-- The header with its options, up to 15 words, and as much of the payload as the total
length says. -/
def ipv4Packet (data : List UInt8) : Option Ipv4Packet :=
  let header := data.take 20
  let words := (header.getD 0 0).toNat % 16
  let payloadLen := ofBytes ((header.drop 2).take 2) - 4 * words
  if header.length < 20 then none
  else some
    { source := BitVec.ofNat 32 (ofBytes ((header.drop 12).take 4))
      destination := BitVec.ofNat 32 (ofBytes ((header.drop 16).take 4))
      ttl := header.getD 8 0
      payload := (data.drop (20 + (4 * words - 20))).take payloadLen }

def ethernetPacket (data : List UInt8) : Option EthernetPacket :=
  let header := data.take ethernetHeaderLen
  if header.length < ethernetHeaderLen then none
  else some
    { source := BitVec.ofNat 48 (ofBytes ((header.drop 6).take 6))
      payload := data.drop ethernetHeaderLen }

def pnet : Pnet where
  ipv4 := ipv4Packet
  ethernet := ethernetPacket

theorem pnet_headers_first : pnet.HeadersFirst := by
  constructor
  · intro data
    let words := ((data.take 20).getD 0 0).toNat % 16
    refine ⟨20 + (4 * words - 20), by omega, ?_⟩
    intro limit enough
    have header : (data.take limit).take 20 = data.take 20 := by
      rw [List.take_take, Nat.min_eq_left (by omega)]
    change ipv4Packet (data.take limit) = (ipv4Packet data).map _
    unfold ipv4Packet
    simp only [header]
    split
    · rfl
    · simp only [Option.map_some, List.drop_take, List.take_take, Nat.min_comm, words]
  · intro data limit enough
    have header : (data.take limit).take ethernetHeaderLen = data.take ethernetHeaderLen := by
      rw [List.take_take, Nat.min_eq_left enough]
    change ethernetPacket (data.take limit) = (ethernetPacket data).map _
    unfold ethernetPacket
    simp only [header]
    split
    · rfl
    · simp only [Option.map_some, List.drop_take]

/-- An advertisement of 192.0.2.20 with 500 bytes behind it that do not belong to it. -/
def trailedAdvert : Datagram :=
  .vrrpV4 ([0x45, 0xc0, 0, 40, 0, 0, 0, 0, 255, 112, 0, 0] ++ octets (ipv4 20) ++
    octets vrrpMcastAddr ++ (router .v2 200 20).ipv4Advert.payload ++ List.replicate 500 0)

end Sample

namespace Daemon

theorem trailed_advert_received :
    let arrivals := Sample.startsAlone.map .occurs ++ [.receives () 1 1 Sample.trailedAdvert]
    let daemon := start Sample.parseNet (fun _ : Unit => Sample.config .v2 100) Sample.host
    machine.run daemon (arrivals.filterMap fun arrival =>
        arrival.received.occurrence Sample.pnet) =
      machine.run daemon (arrivals.filterMap (Arrival.occurrence Sample.pnet)) := by
  intro arrivals daemon
  exact receive_buffers_suffice Sample.pnet_headers_first daemon arrivals

/-- Its handler is given the advertisement alone. -/
example : Sample.trailedAdvert.received.input Sample.pnet =
    some (.vrrpV4 (Sample.router .v2 200 20).ipv4Advert) := by decide +kernel

end Daemon

end Failover
