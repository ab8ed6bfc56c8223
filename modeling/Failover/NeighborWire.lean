import Failover.DecoderSafety

/-!
# Neighbor messages on the wire

The replies to ARP requests and Neighbor Solicitations as the bytes that a socket is
given. An ARP frame is the memory of a struct whose two-byte fields are swapped before
they are laid out in host order; a Neighbor Advertisement is written byte by byte.
-/

namespace Failover

open Library

set_option autoImplicit false

/-- The bytes of a `u16` in the memory of a little-endian host. -/
def littleEndian (value : UInt16) : List UInt8 := [value.toUInt8, (value >>> 8).toUInt8]

/-- What `send_packet_arp` hands to the socket. Every two-byte field of the struct has
an even offset, so `repr(C)` puts no padding between the fields. -/
def ArpFrame.bytes (frame : ArpFrame) : List UInt8 :=
  octets frame.dstMac ++ octets frame.srcMac ++ littleEndian frame.ethertype ++
    littleEndian frame.hardwareType ++ littleEndian frame.protocolType ++
    [frame.hwAddrLen, frame.protoAddrLen] ++ littleEndian frame.opcode ++
    octets frame.senderHwAddr ++ octets frame.senderProtoAddr ++
    octets frame.targetHwAddr ++ octets frame.targetProtoAddr

def ethernetHeaderLen : Nat := 14

theorem to_be_toNat (value : UInt16) :
    (toBe value).toNat = value.toNat % 256 * 256 + value.toNat / 256 := by
  have bound := value.toNat_lt
  have high : value.toNat / 256 < 2 ^ 8 := by omega
  have disjoint := Nat.shiftLeft_add_eq_or_of_lt high (value.toNat % 256)
  have low : value.toNat * 256 % 65536 = value.toNat % 256 * 256 := by omega
  have upper : value <<< 8 = UInt16.ofNat (value.toNat * 256) := by
    apply UInt16.toNat_inj.mp
    simp [Nat.shiftLeft_eq]
  rw [Nat.shiftLeft_eq] at disjoint
  simp only [toBe, UInt16.toNat_or, upper, UInt16.toNat_ofNat', UInt16.toNat_shiftRight]
  change value.toNat * 256 % 65536 ||| value.toNat >>> 8 = _
  rw [low, Nat.shiftRight_eq_div_pow]
  exact disjoint.symm

/-- Swapping and laying out in host order gives network order. -/
theorem little_endian_to_be (value : UInt16) :
    littleEndian (toBe value) = toBytes 2 value.toNat := by
  have bound := value.toNat_lt
  have last : (value.toNat % 256 * 256 + value.toNat / 256) % 256 = value.toNat / 256 := by omega
  have first : (value.toNat % 256 * 256 + value.toNat / 256) / 256 = value.toNat % 256 := by omega
  simp only [littleEndian, toBytes, List.cons.injEq, ← UInt8.toNat_inj]
  simp [to_be_toNat, Nat.shiftRight_eq_div_pow, first, last]
  omega

theorem of_bytes_octets {bits : Nat} (whole : bits % 8 = 0) (address : BitVec bits) :
    BitVec.ofNat bits (ofBytes (octets address)) = address := by
  rw [octets, of_bytes_to_bytes, octets_width whole, Nat.mod_eq_of_lt address.isLt,
    BitVec.ofNat_toNat, BitVec.setWidth_eq]

theorem of_bytes_half_word (value : UInt16) :
    UInt16.ofNat (ofBytes (toBytes 2 value.toNat)) = value := by
  have bound := value.toNat_lt
  rw [of_bytes_to_bytes, Nat.mod_eq_of_lt (by simpa using bound), UInt16.ofNat_toNat]

namespace ArpPacket

def body (packet : ArpPacket) : List UInt8 :=
  toBytes 2 packet.hwType.toNat ++ (toBytes 2 packet.protoType.toNat ++
    packet.hwLength :: packet.protoLength :: (toBytes 2 packet.operation.toNat ++
      (octets packet.senderHwAddress ++ (octets packet.senderProtoAddress ++
        (octets packet.targetHwAddress ++ octets packet.targetProtoAddress)))))

theorem body_length (packet : ArpPacket) : packet.body.length = 28 := by
  simp [body]

theorem decode_body (packet : ArpPacket) : decode packet.body = .ok (some packet) := by
  have half (value : UInt16) (rest : List UInt8) :
      (getUint 2 (toBytes 2 value.toNat ++ rest) : Outcome Empty _) =
        .ok (ofBytes (toBytes 2 value.toNat), rest) :=
    get_uint_append (to_bytes_length 2 _) rest
  have hardware (mac : MacAddr) (rest : List UInt8) :
      (getUint 6 (octets mac ++ rest) : Outcome Empty _) = .ok (ofBytes (octets mac), rest) :=
    get_uint_append (octets_length mac) rest
  have proto (addr : Ipv4Addr) (rest : List UInt8) :
      (getUint 4 (octets addr ++ rest) : Outcome Empty _) = .ok (ofBytes (octets addr), rest) :=
    get_uint_append (octets_length addr) rest
  have last := proto packet.targetProtoAddress []
  rw [List.append_nil] at last
  rw [decode, if_neg (not_not.mpr packet.body_length)]
  simp only [body, half, hardware, proto, last, get_u8_cons, Outcome.ok_bind,
    of_bytes_half_word, of_bytes_octets (show 48 % 8 = 0 by rfl),
    of_bytes_octets (show 32 % 8 = 0 by rfl)]

end ArpPacket

theorem arp_frame_body (ethPkt : EthernetFrame) (arpPkt : ArpPacket) :
    (ArpFrame.new ethPkt arpPkt).bytes.drop ethernetHeaderLen = arpPkt.body := by
  let header := octets ethPkt.dstMac ++ octets ethPkt.srcMac ++ toBytes 2 ethPkt.ethertype.toNat
  have length : header.length = ethernetHeaderLen := by simp [header, ethernetHeaderLen]
  have layout : (ArpFrame.new ethPkt arpPkt).bytes = header ++ arpPkt.body := by
    simp [ArpFrame.bytes, ArpFrame.new, little_endian_to_be, ArpPacket.body, header]
  rw [layout, ← length, List.drop_left]

theorem arp_decodes_iff (body : List UInt8) :
    (∃ packet, ArpPacket.decode body = .ok (some packet)) ↔ body.length = 28 := by
  constructor
  · intro ⟨packet, decoded⟩
    by_contra other
    simp [ArpPacket.decode, other] at decoded
  · intro length
    rcases ArpPacket.decode_cursor_total body with ⟨other, _⟩ | ⟨packet, read⟩
    · exact absurd length other
    · exact ⟨packet, by simp [ArpPacket.decode_eq_cursor, read]⟩

def icmpv6ProtoNum : UInt8 := 58

def allNodesV6McastAddr : Ipv6Addr := 0xff020000000000000000000000000001

/-- The bytes in front of an ICMPv6 message that its checksum covers as well. -/
def icmpv6PseudoHeader (src dst : Ipv6Addr) (len : Nat) : Checksum :=
  (((Checksum.new.addBytes (octets src)).addBytes (octets dst)).addBytes
    (toBytes 4 len)).addBytes [0, 0, 0, icmpv6ProtoNum]

namespace NdpNeighborAdvertisement

def type : UInt8 := 136
def optTargetLinkAddr : UInt8 := 2

def encode (na : NdpNeighborAdvertisement) (srcIp dstIp : Ipv6Addr) : List UInt8 :=
  let flags : UInt8 := if na.overrideFlag then 0b00100000 else 0
  let msg := [type, 0] ++ toBytes 2 0 ++ [flags, 0, 0, 0] ++ octets na.targetAddress ++
    [optTargetLinkAddr, 1] ++ octets na.targetLinkAddr
  let check := (icmpv6PseudoHeader srcIp dstIp msg.length).addBytes msg
  msg.take 2 ++ (check.checksum ++ msg.drop 4)

def body (na : NdpNeighborAdvertisement) : List UInt8 :=
  [if na.overrideFlag then 0b00100000 else 0, 0, 0, 0] ++ octets na.targetAddress ++
    [optTargetLinkAddr, 1] ++ octets na.targetLinkAddr

theorem body_length (na : NdpNeighborAdvertisement) : na.body.length = 28 := by
  simp [body]

theorem encode_eq (na : NdpNeighborAdvertisement) (srcIp dstIp : Ipv6Addr) :
    na.encode srcIp dstIp = [type, 0] ++
      ((Checksum.mk ((icmpv6PseudoHeader srcIp dstIp 32).added ++ [type, 0] ++
        ([0, 0] ++ na.body))).checksum ++ na.body) := by
  have blank : toBytes 2 0 = [0, 0] := by rfl
  have length : ([type, 0] ++ toBytes 2 0 ++
      [if na.overrideFlag then 0b00100000 else 0, 0, 0, 0] ++ octets na.targetAddress ++
        [optTargetLinkAddr, 1] ++ octets na.targetLinkAddr).length = 32 := by simp
  simp only [encode, length]
  simp [body, blank, Checksum.addBytes]

theorem encode_length (na : NdpNeighborAdvertisement) (srcIp dstIp : Ipv6Addr) :
    (na.encode srcIp dstIp).length = 32 := by
  simp [encode_eq, body_length]

theorem encode_layout (na : NdpNeighborAdvertisement) (srcIp dstIp : Ipv6Addr) :
    ∃ check0 check1, na.encode srcIp dstIp = type :: 0 :: check0 :: check1 :: na.body := by
  obtain ⟨check0, check1, check⟩ := VrrpPacket.checksum_bytes (Checksum.mk
    ((icmpv6PseudoHeader srcIp dstIp 32).added ++ [type, 0] ++ ([0, 0] ++ na.body)))
  exact ⟨check0, check1, by rw [encode_eq, check]; rfl⟩

theorem encode_verifies (na : NdpNeighborAdvertisement) (srcIp dstIp : Ipv6Addr) :
    ((icmpv6PseudoHeader srcIp dstIp 32).addBytes (na.encode srcIp dstIp)).checksum = [0, 0] := by
  have even : ((icmpv6PseudoHeader srcIp dstIp 32).added ++ [type, 0]).length % 2 = 0 := by
    simp [icmpv6PseudoHeader, Checksum.addBytes, Checksum.new]
  have verifies := written_checksum_verifies _ na.body even
  rw [encode_eq, Checksum.addBytes, ← List.append_assoc]
  exact verifies

end NdpNeighborAdvertisement

end Failover
