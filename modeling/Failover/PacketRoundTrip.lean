import Failover.PacketLayout

/-!
# Decoding undoes encoding

The encoders write a checksum over a zero word of a buffer that already has the
layout of its packet. What a packet must satisfy is that its fields fit the
widths the format gives them.
-/

namespace Failover

open Library

set_option autoImplicit false

def VrrpAddresses.bytes : VrrpAddresses → List UInt8
  | v4 addrs => addrs.flatMap octets
  | v6 addrs => addrs.flatMap octets

namespace VrrpPacket

/-- The fields fit the format: at most sixteen addresses, an interval that the
version's interval field can hold, and IPv6 addresses only under version 3. -/
structure Fits (packet : VrrpPacket) : Prop where
  count : packet.addresses.len ≤ maxIpCount
  interval : match packet.version with
    | .v2 => ∃ seconds : UInt8, packet.adverIntCs = seconds.toUInt16 * 100
    | .v3 => packet.adverIntCs.toNat ≤ 4095
  family : ∀ addrs, packet.addresses = .v6 addrs → packet.version = .v3

theorem known_ver_type (version : VrrpVersion) :
    VrrpVersion.tryFrom (((version.asU8 <<< 4) ||| hdwrType) >>> 4) = .ok version := by
  cases version <;> rfl

theorem seconds_field (seconds : UInt8) : (seconds.toUInt16 * 100 / 100).toUInt8 = seconds := by
  have bound := seconds.toNat_lt
  apply UInt8.toNat_inj.mp
  simp only [UInt16.toNat_toUInt8, UInt16.toNat_div, UInt16.toNat_mul, UInt8.toNat_toUInt16,
    UInt16.reduceToNat]
  rw [Nat.mod_eq_of_lt (show seconds.toNat * 100 < 2 ^ 16 by omega),
    Nat.mul_div_cancel _ (by decide), Nat.mod_eq_of_lt bound]

theorem centiseconds_field {interval : UInt16} (bound : interval.toNat ≤ 4095) :
    ∃ high low, toBytes 2 (interval &&& 0x0FFF).toNat = [high, low] ∧
      intervalField .v3 high low = interval := by
  have masked : (interval &&& 0x0FFF).toNat = interval.toNat := by
    rw [UInt16.toNat_and]
    exact (Nat.and_two_pow_sub_one_eq_mod interval.toNat 12).trans (Nat.mod_eq_of_lt (by omega))
  refine ⟨_, _, rfl, ?_⟩
  have decoded := of_bytes_to_bytes 2 (interval &&& 0x0FFF).toNat
  rw [masked, Nat.mod_eq_of_lt (by omega)] at decoded
  have value : (UInt8.ofNat ((interval &&& 0x0FFF).toNat / 256 ^ 1)).toNat * 256 +
      (UInt8.ofNat ((interval &&& 0x0FFF).toNat / 256 ^ 0)).toNat = interval.toNat := by
    rw [masked]
    simpa [toBytes, ofBytes] using decoded
  rw [intervalField, value, UInt16.ofNat_toNat]
  apply UInt16.toNat_inj.mp
  exact masked

theorem interval_bytes {packet : VrrpPacket} (fits : packet.Fits) :
    ∃ high low, packet.intervalBytes = [high, low] ∧
      packet.adverIntCs = intervalField packet.version high low := by
  have interval := fits.interval
  cases version : packet.version with
  | v2 =>
      rw [version] at interval
      obtain ⟨seconds, same⟩ := interval
      refine ⟨0, seconds, ?_, same⟩
      simp only [intervalBytes, version, same, seconds_field]
  | v3 =>
      rw [version] at interval
      obtain ⟨high, low, bytes, value⟩ := centiseconds_field interval
      exact ⟨high, low, by simpa only [intervalBytes, version] using bytes, value.symm⟩

theorem checksum_bytes (check : Checksum) :
    ∃ check0 check1, check.checksum = [check0, check1] :=
  ⟨_, _, rfl⟩

/-- The two interval bytes, which over IPv6 are those of version 3. -/
def wireInterval (packet : VrrpPacket) : List UInt8 :=
  match packet.addresses with
  | .v4 _ => packet.intervalBytes
  | .v6 _ => toBytes 2 (packet.adverIntCs &&& 0x0FFF).toNat

def head (packet : VrrpPacket) : List UInt8 :=
  [(packet.version.asU8 <<< 4) ||| hdwrType, packet.vrid, packet.priority,
    UInt8.ofNat packet.addresses.len] ++ packet.wireInterval

def body (packet : VrrpPacket) : List UInt8 :=
  packet.addresses.bytes ++
    match packet.addresses, packet.version with
    | .v4 _, .v2 => List.replicate v2AuthTrailerLen 0
    | _, _ => []

/-- What the checksum covers besides the message. -/
def covering (packet : VrrpPacket) (srcIp : IpAddr) : List UInt8 :=
  match packet.addresses, srcIp with
  | .v4 _, _ => []
  | .v6 _, .v6 src => (pseudoHeader src vrrpV6McastAddr (8 + packet.body.length)).added
  | .v6 _, .v4 _ => (pseudoHeader 0 vrrpV6McastAddr (8 + packet.body.length)).added

theorem wire_interval_bytes (packet : VrrpPacket) :
    ∃ high low, packet.wireInterval = [high, low] := by
  unfold wireInterval intervalBytes
  cases packet.addresses with
  | v4 => cases packet.version <;> exact ⟨_, _, rfl⟩
  | v6 => exact ⟨_, _, rfl⟩

theorem head_length (packet : VrrpPacket) : packet.head.length = 6 := by
  rcases packet.wire_interval_bytes with ⟨high, low, wire⟩
  rw [head, wire]
  rfl

theorem copy_checksum_blank {head check : List UInt8} (length : head.length = 6)
    (rest : List UInt8) :
    copyChecksum (head ++ ([0, 0] ++ rest)) check = head ++ (check ++ rest) := by
  have blank : (head ++ ([0, 0] ++ rest)).drop 8 = rest := by
    rw [← List.append_assoc]
    exact List.drop_left' (by simp [length])
  rw [copyChecksum, List.take_left' length, blank]

/-- Both encoders write the checksum of the message with a zero word in its place. -/
theorem encode_eq (packet : VrrpPacket) (srcIp : IpAddr) :
    packet.encode srcIp = packet.head ++ ((Checksum.mk (packet.covering srcIp ++ packet.head ++
      ([0, 0] ++ packet.body))).checksum ++ packet.body) := by
  rw [← copy_checksum_blank packet.head_length]
  cases addresses : packet.addresses with
  | v4 addrs =>
      have buf : [(packet.version.asU8 <<< 4) ||| hdwrType, packet.vrid, packet.priority,
          UInt8.ofNat addrs.length] ++ packet.intervalBytes ++ toBytes 2 0 ++
            addrs.flatMap octets ++
              (if packet.version = .v2 then toBytes 4 0 ++ toBytes 4 0 else []) =
          packet.head ++ ([0, 0] ++ packet.body) := by
        simp only [head, wireInterval, body, addresses, VrrpAddresses.bytes, VrrpAddresses.len]
        cases packet.version <;> simp [toBytes, v2AuthTrailerLen]
      simp only [encode, addresses, encodeV4, buf, covering]
      rfl
  | v6 addrs =>
      have buf : [(packet.version.asU8 <<< 4) ||| hdwrType, packet.vrid, packet.priority,
          UInt8.ofNat addrs.length] ++ toBytes 2 (packet.adverIntCs &&& 0x0FFF).toNat ++
            toBytes 2 0 ++ addrs.flatMap octets = packet.head ++ ([0, 0] ++ packet.body) := by
        simp only [head, wireInterval, body, addresses, VrrpAddresses.bytes, VrrpAddresses.len]
        simp [toBytes]
      have size : (packet.head ++ ([0, 0] ++ packet.body)).length = 8 + packet.body.length := by
        simp only [List.length_append, packet.head_length, List.length_cons, List.length_nil]
        omega
      simp only [encode, addresses, encodeV6, buf, size, covering]
      cases srcIp <;> simp [Checksum.addBytes]

theorem encode_length (packet : VrrpPacket) (srcIp : IpAddr) :
    (packet.encode srcIp).length = 8 + packet.body.length := by
  rw [encode_eq]
  simp only [List.length_append, packet.head_length, checksum_length]
  omega

theorem body_even (packet : VrrpPacket) : packet.body.length % 2 = 0 := by
  unfold body
  cases packet.addresses with
  | v4 addrs =>
      rw [VrrpAddresses.bytes, List.length_append, octets_flat_map_length]
      cases packet.version with
      | v2 =>
          rw [List.length_replicate, v2AuthTrailerLen]
          omega
      | v3 =>
          rw [List.length_nil]
          omega
  | v6 addrs =>
      rw [VrrpAddresses.bytes, List.length_append, octets_flat_map_length, List.length_nil]
      omega

theorem covering_even (packet : VrrpPacket) (srcIp : IpAddr) :
    (packet.covering srcIp).length % 2 = 0 := by
  unfold covering
  split <;> simp [pseudoHeader, Checksum.new, Checksum.addBytes]

theorem encode_verifies (packet : VrrpPacket) (srcIp : IpAddr) :
    (Checksum.mk (packet.covering srcIp ++ packet.encode srcIp)).checksum = [0, 0] := by
  have even : (packet.covering srcIp ++ packet.head).length % 2 = 0 := by
    rw [List.length_append, packet.head_length]
    have := packet.covering_even srcIp
    omega
  rw [encode_eq, ← List.append_assoc]
  exact written_checksum_verifies (packet.covering srcIp ++ packet.head) packet.body even

theorem encode_verifies_v4 {packet : VrrpPacket} {addrs : List Ipv4Addr}
    (addresses : packet.addresses = .v4 addrs) (srcIp : IpAddr) :
    verifyChecksumV4 (packet.encode srcIp) = true := by
  have verified := packet.encode_verifies srcIp
  simp only [covering, addresses, List.nil_append] at verified
  exact decide_eq_true verified

theorem encode_verifies_v6 {packet : VrrpPacket} {addrs : List Ipv6Addr}
    (addresses : packet.addresses = .v6 addrs) (src : Ipv6Addr) :
    verifyChecksumV6 (packet.encode (.v6 src)) src vrrpV6McastAddr = true := by
  have verified := packet.encode_verifies (.v6 src)
  simp only [covering, addresses] at verified
  rw [verifyChecksumV6, encode_length]
  exact decide_eq_true verified

theorem encode_header (packet : VrrpPacket) (srcIp : IpAddr) :
    ∃ high low check0 check1, packet.wireInterval = [high, low] ∧
      packet.encode srcIp = ((packet.version.asU8 <<< 4) ||| hdwrType) :: packet.vrid ::
        packet.priority :: UInt8.ofNat packet.addresses.len :: high :: low :: check0 :: check1 ::
          packet.body := by
  rcases packet.wire_interval_bytes with ⟨high, low, wire⟩
  rcases checksum_bytes (Checksum.mk (packet.covering srcIp ++ packet.head ++
    ([0, 0] ++ packet.body))) with ⟨check0, check1, check⟩
  refine ⟨high, low, check0, check1, wire, ?_⟩
  rw [encode_eq, check, head, wire]
  rfl

theorem wire_interval_reads {packet : VrrpPacket} (fits : packet.Fits) {high low : UInt8}
    (wire : packet.wireInterval = [high, low]) :
    packet.adverIntCs = intervalField packet.version high low := by
  rcases interval_bytes fits with ⟨first, second, bytes, interval⟩
  have same : packet.wireInterval = packet.intervalBytes := by
    unfold wireInterval
    cases addresses : packet.addresses with
    | v4 => rfl
    | v6 addrs =>
        have version := fits.family addrs addresses
        simp only [intervalBytes, version]
  rw [same, bytes] at wire
  simp only [List.cons.injEq, and_true] at wire
  rw [interval, wire.1, wire.2]

theorem encode_v4_has_layout {packet : VrrpPacket} {addrs : List Ipv4Addr} (fits : packet.Fits)
    (addresses : packet.addresses = .v4 addrs) (srcIp : IpAddr) :
    HasLayoutV4 (packet.encode srcIp) packet := by
  rcases packet.encode_header srcIp with ⟨high, low, check0, check1, wire, encoded⟩
  have interval := wire_interval_reads fits wire
  have few := fits.count
  simp only [body, addresses, VrrpAddresses.bytes, VrrpAddresses.len] at encoded few
  refine ⟨⟨_, high, low, check0, check1, addrs, _, encoded, known_ver_type _, few, ?_, interval,
    addresses⟩, encode_verifies_v4 addresses srcIp⟩
  cases packet.version <;> simp [trailerLen]

theorem encode_v6_has_layout {packet : VrrpPacket} {addrs : List Ipv6Addr} (fits : packet.Fits)
    (addresses : packet.addresses = .v6 addrs) (src : Ipv6Addr) :
    HasLayoutV6 (packet.encode (.v6 src)) src vrrpV6McastAddr packet := by
  rcases packet.encode_header (.v6 src) with ⟨high, low, check0, check1, wire, encoded⟩
  have interval := wire_interval_reads fits wire
  have version := fits.family addrs addresses
  have few := fits.count
  have known := known_ver_type packet.version
  simp only [body, addresses, VrrpAddresses.bytes, VrrpAddresses.len, List.append_nil]
    at encoded few
  rw [version] at known interval
  exact ⟨⟨_, high, low, check0, check1, addrs, encoded, version ▸ known, version, few, interval,
    addresses⟩, encode_verifies_v6 addresses src⟩

/-- The destination matters only to the pseudo-header of an IPv6 message. -/
theorem decode_encode_v4 {packet : VrrpPacket} {addrs : List Ipv4Addr} (fits : packet.Fits)
    (addresses : packet.addresses = .v4 addrs) (src : Ipv4Addr) (dst : IpAddr) :
    decode (packet.encode (.v4 src)) (.v4 src) dst = .ok packet := by
  rw [decode_ok_iff]
  exact encode_v4_has_layout fits addresses (.v4 src)

theorem decode_encode_v6 {packet : VrrpPacket} {addrs : List Ipv6Addr} (fits : packet.Fits)
    (addresses : packet.addresses = .v6 addrs) (src : Ipv6Addr) :
    decode (packet.encode (.v6 src)) (.v6 src) (.v6 vrrpV6McastAddr) = .ok packet := by
  rw [decode_ok_iff]
  exact encode_v6_has_layout fits addresses src

/-- Every packet that fits the format comes back from the wire as it was, and no
encoder ever writes a checksum that does not verify. -/
theorem decode_undoes_encode (packet : VrrpPacket) :
    (packet.Fits →
      (∀ addrs, packet.addresses = .v4 addrs → ∀ src dst : Ipv4Addr,
        decode (packet.encode (.v4 src)) (.v4 src) (.v4 dst) = .ok packet) ∧
      ∀ addrs, packet.addresses = .v6 addrs → ∀ src : Ipv6Addr,
        decode (packet.encode (.v6 src)) (.v6 src) (.v6 vrrpV6McastAddr) = .ok packet) ∧
    (∀ addrs, packet.addresses = .v4 addrs → ∀ src : Ipv4Addr,
      verifyChecksumV4 (packet.encode (.v4 src)) = true) ∧
    ∀ addrs, packet.addresses = .v6 addrs → ∀ src : Ipv6Addr,
      verifyChecksumV6 (packet.encode (.v6 src)) src vrrpV6McastAddr = true := by
  refine ⟨fun fits => ⟨?_, ?_⟩, ?_, ?_⟩
  · exact fun addrs addresses src dst => decode_encode_v4 fits addresses src (.v4 dst)
  · exact fun addrs addresses src => decode_encode_v6 fits addresses src
  · exact fun addrs addresses src => encode_verifies_v4 addresses (.v4 src)
  · exact fun addrs addresses src => encode_verifies_v6 addresses src

end VrrpPacket

/-- A version 3 advertisement of one global and one link-local address. -/
def Sample.ipv6Packet : VrrpPacket where
  version := .v3
  vrid := 51
  priority := 100
  adverIntCs := 4095
  addresses := .v6 [0x20010db8000000000000000000000001, 0xfe800000000000000000000000000001]

namespace VrrpPacket

theorem ipv6_packet_decoded :
    decode (Sample.ipv6Packet.encode (.v6 0xfe80000000000000000000000000000a))
        (.v6 0xfe80000000000000000000000000000a) (.v6 vrrpV6McastAddr) = .ok Sample.ipv6Packet := by
  have fits : Sample.ipv6Packet.Fits := by
    constructor
    · decide
    · change (4095 : UInt16).toNat ≤ 4095
      decide
    · exact fun _ _ => rfl
  exact ((decode_undoes_encode Sample.ipv6Packet).1 fits).2 _ rfl _

theorem encode_priority_byte (packet : VrrpPacket) (srcIp : IpAddr) :
    (packet.encode srcIp)[2]? = some packet.priority := by
  unfold encode
  split
  · simp [encodeV4, copyChecksum]
  · simp [encodeV6, copyChecksum]

theorem layout_bytes {data : List UInt8} {srcIp dstIp : IpAddr} {packet : VrrpPacket}
    (has : HasLayout data srcIp dstIp packet) :
    ∃ verType high low check0 check1 trailer,
      data = verType :: packet.vrid :: packet.priority :: UInt8.ofNat packet.addresses.len ::
        high :: low :: check0 :: check1 :: (packet.addresses.bytes ++ trailer) ∧
      VrrpVersion.tryFrom (verType >>> 4) = .ok packet.version ∧
      packet.addresses.len ≤ maxIpCount ∧ trailer.length = trailerLen packet.version ∧
      packet.adverIntCs = intervalField packet.version high low := by
  match srcIp, dstIp with
  | .v4 _, _ =>
      rcases has.layout with ⟨verType, high, low, check0, check1, addrs, trailer, same, known, few,
        trailerLength, interval, addresses⟩
      rw [addresses]
      exact ⟨verType, high, low, check0, check1, trailer, same, known, few, trailerLength, interval⟩
  | .v6 src, .v6 dst =>
      rcases has.layout with ⟨verType, high, low, check0, check1, addrs, same, known, version, few,
        interval, addresses⟩
      rw [addresses, version]
      exact ⟨verType, high, low, check0, check1, [], by rw [List.append_nil]; exact same,
        known, few, rfl, interval⟩
  | .v6 _, .v4 _ => exact has.elim

theorem layout_priority_byte {data : List UInt8} {srcIp dstIp : IpAddr} {packet : VrrpPacket}
    (has : HasLayout data srcIp dstIp packet) : data[2]? = some packet.priority := by
  rcases layout_bytes has with ⟨verType, high, low, check0, check1, trailer, rfl, _⟩
  rfl

theorem decode_encode_priority {packet received : VrrpPacket} {encodeSrc srcIp dstIp : IpAddr}
    (decoded : decode (packet.encode encodeSrc) srcIp dstIp = .ok received) :
    received.priority = packet.priority := by
  have sent := encode_priority_byte packet encodeSrc
  rw [layout_priority_byte ((decode_ok_iff _ _ _ _).mp decoded)] at sent
  exact Option.some.inj sent

end VrrpPacket

end Failover
