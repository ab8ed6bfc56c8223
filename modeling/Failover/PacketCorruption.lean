import Failover.PacketRoundTrip

/-!
# Corrupted packets

A change within one aligned word of a message, or within one group of the source
address that its checksum covers, moves the one's-complement sum off zero.
-/

namespace Failover

open Library

set_option autoImplicit false

namespace VrrpPacket

theorem decode_v4_verifies {data : List UInt8} {src dst : Ipv4Addr} {packet : VrrpPacket}
    (decoded : decode data (.v4 src) (.v4 dst) = .ok packet) :
    (Checksum.mk data).checksum = [0, 0] := by
  have has : HasLayoutV4 data packet := (decode_ok_iff _ _ _ _).mp decoded
  exact of_decide_eq_true has.verifies

theorem decode_v6_verifies {data : List UInt8} {src dst : Ipv6Addr} {packet : VrrpPacket}
    (decoded : decode data (.v6 src) (.v6 dst) = .ok packet) :
    (Checksum.mk ((pseudoHeader src dst data.length).added ++ data)).checksum = [0, 0] := by
  have has : HasLayoutV6 data src dst packet := (decode_ok_iff _ _ _ _).mp decoded
  exact of_decide_eq_true has.verifies

theorem rejected_of_not_ok {data : List UInt8} {srcIp dstIp : IpAddr}
    (refused : ∀ packet, decode data srcIp dstIp ≠ .ok packet) :
    ∃ err, decode data srcIp dstIp = .err err := by
  rcases decode_total data srcIp dstIp with failed | ⟨packet, decoded, _⟩
  · exact failed
  · exact absurd decoded (refused packet)

theorem encode_even (packet : VrrpPacket) (srcIp : IpAddr) :
    (packet.encode srcIp).length % 2 = 0 := by
  have even := packet.body_even
  rw [encode_length]
  omega

theorem changed_word_rejected_v4 {packet : VrrpPacket} {addrs : List Ipv4Addr}
    (addresses : packet.addresses = .v4 addrs) (src dst : Ipv4Addr) {changed : List UInt8}
    {index : Nat} (change : OneWordChanged (packet.encode (.v4 src)) changed index) :
    ∃ err, decode changed (.v4 src) (.v4 dst) = .err err := by
  apply rejected_of_not_ok
  intro other decoded
  have verified := packet.encode_verifies (.v4 src)
  simp only [covering, addresses] at verified
  have fails := @changed_word_fails [] _ _ _ change (by rfl) (packet.encode_even _) []
    (by simpa using verified)
  exact fails (by simpa using decode_v4_verifies decoded)

theorem changed_word_rejected_v6 {packet : VrrpPacket} {addrs : List Ipv6Addr}
    (addresses : packet.addresses = .v6 addrs) (src : Ipv6Addr) {changed : List UInt8}
    {index : Nat} (change : OneWordChanged (packet.encode (.v6 src)) changed index) :
    ∃ err, decode changed (.v6 src) (.v6 vrrpV6McastAddr) = .err err := by
  apply rejected_of_not_ok
  intro other decoded
  have still := decode_v6_verifies decoded
  rw [change.length, encode_length] at still
  have verified := packet.encode_verifies (.v6 src)
  have even := packet.covering_even (.v6 src)
  simp only [covering, addresses] at verified even
  have fails := changed_word_fails change even (packet.encode_even _) []
    (by simpa using verified)
  exact fails (by simpa using still)

theorem changed_source_rejected {packet : VrrpPacket} {addrs : List Ipv6Addr}
    (addresses : packet.addresses = .v6 addrs) (version : packet.version = .v3)
    (few : addrs.length ≤ maxIpCount) {src other : Ipv6Addr} {group : Nat}
    (change : OneWordChanged (octets src) (octets other) group) :
    decode (packet.encode (.v6 src)) (.v6 other) (.v6 vrrpV6McastAddr) = .err .badChecksum := by
  let after := octets vrrpV6McastAddr ++ toBytes 4 (8 + packet.body.length) ++
    [0, 0, 0, vrrpProtoNum] ++ packet.encode (.v6 src)
  have covered (source : Ipv6Addr) : (pseudoHeader source vrrpV6McastAddr
      (8 + packet.body.length)).added ++ packet.encode (.v6 src) =
        [] ++ octets source ++ after := by
    simp [pseudoHeader, Checksum.new, Checksum.addBytes, after]
  have verified := packet.encode_verifies (.v6 src)
  simp only [covering, addresses, covered] at verified
  have fails := changed_word_fails change (by rfl) (by simp) after verified
  have unverified : verifyChecksumV6 (packet.encode (.v6 src)) other vrrpV6McastAddr = false := by
    apply decide_eq_false
    rw [encode_length]
    change (Checksum.mk ((pseudoHeader other vrrpV6McastAddr (8 + packet.body.length)).added ++
      packet.encode (.v6 src))).checksum ≠ [0, 0]
    rw [covered]
    exact fails
  rcases packet.encode_header (.v6 src) with ⟨high, low, check0, check1, _, encoded⟩
  have known := known_ver_type packet.version
  have count : (UInt8.ofNat packet.addresses.len).toNat = addrs.length := by
    rw [addresses]
    exact count_of_nat few
  have size : packet.body.length = addrs.length * 16 := by
    simp only [body, addresses, VrrpAddresses.bytes, List.append_nil]
    exact octets_flat_map_length addrs
  rw [encoded] at unverified ⊢
  simp only [decode, decodeV6]
  rw [version] at known unverified ⊢
  rw [decode_v6_cursor_header known, count, size, if_neg (by omega), if_pos unverified]
  rfl

/-- No change within one aligned word of an encoded packet gets past a decoder. -/
theorem corruption_rejected (packet : VrrpPacket) :
    (∀ addrs : List Ipv4Addr, packet.addresses = .v4 addrs → ∀ src dst : Ipv4Addr,
      ∀ changed index, OneWordChanged (packet.encode (.v4 src)) changed index →
        ∃ err, decode changed (.v4 src) (.v4 dst) = .err err) ∧
    ∀ addrs : List Ipv6Addr, packet.addresses = .v6 addrs → ∀ src : Ipv6Addr,
      (∀ changed index, OneWordChanged (packet.encode (.v6 src)) changed index →
        ∃ err, decode changed (.v6 src) (.v6 vrrpV6McastAddr) = .err err) ∧
      (packet.version = .v3 → addrs.length ≤ maxIpCount → ∀ other group,
        OneWordChanged (octets src) (octets other) group →
          decode (packet.encode (.v6 src)) (.v6 other) (.v6 vrrpV6McastAddr) =
            .err .badChecksum) := by
  refine ⟨?_, fun addrs addresses src => ⟨?_, ?_⟩⟩
  · intro addrs addresses src dst changed index change
    exact changed_word_rejected_v4 addresses src dst change
  · intro changed index change
    exact changed_word_rejected_v6 addresses src change
  · intro version few other group change
    exact changed_source_rejected addresses version few change

/-- Its priority is changed on the way, or it comes from another link-local address. -/
theorem ipv6_packet_rejected :
    (∃ err, decode
        ((Sample.ipv6Packet.encode (.v6 0xfe80000000000000000000000000000a)).set 2 200)
        (.v6 0xfe80000000000000000000000000000a) (.v6 vrrpV6McastAddr) = .err err) ∧
      decode (Sample.ipv6Packet.encode (.v6 0xfe80000000000000000000000000000a))
          (.v6 0xfe80000000000000000000000000000b) (.v6 vrrpV6McastAddr) = .err .badChecksum := by
  have rejected := (corruption_rejected Sample.ipv6Packet).2 _ rfl
    0xfe80000000000000000000000000000a
  have elsewhere (bytes : List UInt8) (place : Nat) (byte : UInt8) (i : Nat)
      (other : i / 2 ≠ place / 2) : (bytes.set place byte).getD i 0 = bytes.getD i 0 := by
    have apart : place ≠ i := fun same => other (by rw [same])
    simp [List.getD_eq_getElem?_getD, List.getElem?_set_ne apart]
  constructor
  · exact rejected.1 _ 1 ⟨by simp, elsewhere _ 2 200, by decide +kernel, by decide +kernel,
      by decide +kernel⟩
  · have source : octets (0xfe80000000000000000000000000000b : Ipv6Addr) =
        (octets (0xfe80000000000000000000000000000a : Ipv6Addr)).set 15 0x0b := by decide +kernel
    refine rejected.2 rfl (by decide) _ 7 ⟨?_, ?_, ?_, ?_, ?_⟩
    · rfl
    · rw [source]
      exact elsewhere _ 15 0x0b
    · decide +kernel
    · decide +kernel
    · decide +kernel

end VrrpPacket

end Failover
