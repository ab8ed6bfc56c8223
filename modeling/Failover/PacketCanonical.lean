import Failover.PacketFormat
import Failover.PacketRoundTrip
import Mathlib.Data.List.GetD

/-!
# Encoding undoes decoding

A decoder drops the type nibble, the reserved bits, the authentication bytes and the
checksum field. What an encoder makes of the packet differs from the message in these
at most, and not at all when they are as an encoder writes them.
-/

namespace Failover

open Library

set_option autoImplicit false

namespace Endpoints

open VrrpPacket

/-- The destination is the one that an encoder covers with its checksum. -/
def ToGroup : Endpoints → Prop
  | v4 .. => True
  | v6 _ dst => dst = vrrpV6McastAddr

/-- The bits of each byte of a message that end up in the packet. -/
def keptBits (ends : Endpoints) (data : List UInt8) : Nat → UInt8
  | 0 => 0xF0
  | 4 => if versionNibble data = 2 then 0 else 0x0F
  | 6 => 0
  | 7 => 0
  | index =>
      if versionNibble data = 2 ∧ 8 + ends.addressLen * countByte data ≤ index then 0 else 0xFF

/-- The fields that a decoder drops are as an encoder writes them. -/
structure Canonical (ends : Endpoints) (data : List UInt8) : Prop where
  advertisement : typeNibble data = 1
  checksum : ¬ (data.getD 6 0 = 0xFF ∧ data.getD 7 0 = 0xFF)
  auth : versionNibble data = 2 → data.getD 4 0 = 0 ∧
    data.drop (8 + ends.addressLen * countByte data) = List.replicate v2AuthTrailerLen 0
  reserved : versionNibble data = 3 → (data.getD 4 0).toNat / 16 = 0

theorem high_nibble {left right : UInt8} (same : left.toNat / 16 = right.toNat / 16) :
    left &&& 0xF0 = right &&& 0xF0 := by
  have mask : ∀ byte < 256, byte &&& 240 = byte / 16 * 16 := by decide +kernel
  apply UInt8.toNat_inj.mp
  rw [UInt8.toNat_and, UInt8.toNat_and, show (0xF0 : UInt8).toNat = 240 by rfl,
    mask _ left.toNat_lt, mask _ right.toNat_lt, same]

theorem low_nibble (byte : UInt8) : (byte &&& 0x0F).toNat = byte.toNat % 16 := by
  rw [UInt8.toNat_and]
  exact Nat.and_two_pow_sub_one_eq_mod byte.toNat 4

theorem interval_bytes_read {packet : VrrpPacket} {high low : UInt8}
    (interval : packet.adverIntCs = intervalField packet.version high low) :
    packet.intervalBytes =
      [match packet.version with
        | .v2 => 0
        | .v3 => high &&& 0x0F, low] := by
  have highBound := high.toNat_lt
  have lowBound := low.toNat_lt
  cases version : packet.version with
  | v2 =>
      rw [version] at interval
      simp only [intervalBytes, version, interval, intervalField, seconds_field]
  | v3 =>
      rw [version] at interval
      have value : (packet.adverIntCs &&& 0x0FFF).toNat = high.toNat % 16 * 256 + low.toNat := by
        rw [interval, intervalField, UInt16.toNat_and, UInt16.toNat_and, UInt16.toNat_ofNat',
          show (0x0FFF : UInt16).toNat = 2 ^ 12 - 1 by rfl, Nat.and_two_pow_sub_one_eq_mod,
          Nat.and_two_pow_sub_one_eq_mod]
        omega
      simp only [intervalBytes, version, value]
      have first : UInt8.ofNat ((high.toNat % 16 * 256 + low.toNat) / 256 ^ 1) = high &&& 0x0F := by
        apply UInt8.toNat_inj.mp
        rw [low_nibble, UInt8.toNat_ofNat']
        omega
      have second : UInt8.ofNat ((high.toNat % 16 * 256 + low.toNat) / 256 ^ 0) = low := by
        apply UInt8.toNat_inj.mp
        rw [UInt8.toNat_ofNat']
        omega
      simp only [toBytes, first, second]

/-- A message next to the packet it was decoded to. -/
structure Received (ends : Endpoints) (data : List UInt8) (packet : VrrpPacket) where
  verType : UInt8
  high : UInt8
  low : UInt8
  check0 : UInt8
  check1 : UInt8
  trailer : List UInt8
  bytes : data = verType :: packet.vrid :: packet.priority ::
    UInt8.ofNat packet.addresses.len :: high :: low :: check0 :: check1 ::
      (packet.addresses.bytes ++ trailer)
  nibble : verType.toNat / 16 = packet.version.asU8.toNat
  few : packet.addresses.len ≤ maxIpCount
  entries : packet.addresses.bytes.length = ends.addressLen * packet.addresses.len
  trailerLength : trailer.length = trailerLen packet.version
  interval : packet.wireInterval = [match packet.version with
    | .v2 => 0
    | .v3 => high &&& 0x0F, low]
  body : packet.body = packet.addresses.bytes ++ List.replicate (trailerLen packet.version) 0
  verified : ends.ToGroup →
    (Checksum.mk (packet.covering ends.srcIp ++ data)).checksum = [0, 0]

theorem received_v4 {src : Ipv4Addr} {dst : IpAddr} {data : List UInt8} {packet : VrrpPacket}
    (has : HasLayoutV4 data packet) : Nonempty ((v4 src dst).Received data packet) := by
  rcases @layout_bytes data (.v4 src) dst packet has with ⟨verType, high, low, check0, check1,
    trailer, bytes, known, few, trailerLength, interval⟩
  rcases has.layout with ⟨_, _, _, _, _, addrs, _, _, _, _, _, _, addresses⟩
  refine ⟨{ verType, high, low, check0, check1, trailer, bytes, few, trailerLength
            nibble := try_from_nibble.mp known
            entries := ?_
            interval := ?_
            body := ?_
            verified := ?_ }⟩
  · rw [addresses]
    exact (octets_flat_map_length addrs).trans (Nat.mul_comm _ _)
  · simp only [wireInterval, addresses, interval_bytes_read interval]
  · simp only [body, addresses]
    cases packet.version <;> rfl
  · intro _
    simp only [covering, addresses]
    exact of_decide_eq_true has.verifies

theorem received_v6 {src dst : Ipv6Addr} {data : List UInt8} {packet : VrrpPacket}
    (has : HasLayoutV6 data src dst packet) : Nonempty ((v6 src dst).Received data packet) := by
  rcases @layout_bytes data (.v6 src) (.v6 dst) packet has with ⟨verType, high, low, check0, check1,
    trailer, bytes, known, few, trailerLength, interval⟩
  rcases has.layout with ⟨_, _, _, _, _, addrs, _, _, version, _, _, addresses⟩
  have own : packet.body = packet.addresses.bytes := by
    simp only [body, addresses, List.append_nil]
  have length : data.length = 8 + packet.body.length := by
    rw [bytes, own]
    rw [version] at trailerLength
    simp [List.length_eq_zero_iff.mp trailerLength]
    omega
  refine ⟨{ verType, high, low, check0, check1, trailer, bytes, few, trailerLength
            nibble := try_from_nibble.mp known
            entries := ?_
            interval := ?_
            body := ?_
            verified := ?_ }⟩
  · rw [addresses]
    exact (octets_flat_map_length addrs).trans (Nat.mul_comm _ _)
  · have read := interval_bytes_read interval
    simp only [intervalBytes, version] at read
    simp only [wireInterval, addresses, version, read]
  · rw [own, version]
    exact (List.append_nil _).symm
  · intro toGroup
    have verifies := of_decide_eq_true has.verifies
    rw [length, show dst = vrrpV6McastAddr from toGroup] at verifies
    simp only [covering, addresses]
    exact verifies

theorem exists_received {ends : Endpoints} {data : List UInt8} {packet : VrrpPacket}
    (decoded : decode data ends.srcIp ends.dstIp = .ok packet) :
    Nonempty (ends.Received data packet) := by
  have has := (decode_ok_iff data ends.srcIp ends.dstIp packet).mp decoded
  cases ends with
  | v4 src dst => exact received_v4 has
  | v6 src dst => exact received_v6 has

namespace Received

variable {ends : Endpoints} {data : List UInt8} {packet : VrrpPacket}

theorem encode_bytes (received : ends.Received data packet) :
    ∃ check0 check1, packet.encode ends.srcIp =
      ((packet.version.asU8 <<< 4) ||| hdwrType) :: packet.vrid :: packet.priority ::
        UInt8.ofNat packet.addresses.len ::
          (match packet.version with
            | .v2 => 0
            | .v3 => received.high &&& 0x0F) :: received.low :: check0 :: check1 ::
              (packet.addresses.bytes ++ List.replicate (trailerLen packet.version) 0) := by
  rcases packet.encode_header ends.srcIp with ⟨high, low, check0, check1, wire, encoded⟩
  rw [received.interval] at wire
  simp only [List.cons.injEq, and_true] at wire
  rw [encoded, received.body, ← wire.1, ← wire.2]
  exact ⟨check0, check1, rfl⟩

theorem same_length (received : ends.Received data packet) :
    (packet.encode ends.srcIp).length = data.length := by
  rcases received.encode_bytes with ⟨check0, check1, encoded⟩
  have length := congrArg List.length received.bytes
  rw [encoded, length]
  simp [received.trailerLength]

theorem version_nibble (received : ends.Received data packet) :
    versionNibble data = packet.version.asU8.toNat := by
  rw [received.bytes]
  exact received.nibble

theorem count (received : ends.Received data packet) :
    countByte data = packet.addresses.len := by
  rw [received.bytes]
  exact count_of_nat received.few

theorem kept_bits (received : ends.Received data packet) (index : Nat) :
    (packet.encode ends.srcIp).getD index 0 &&& ends.keptBits data index =
      data.getD index 0 &&& ends.keptBits data index := by
  rcases received.encode_bytes with ⟨check0, check1, encoded⟩
  have byte := congrArg (fun bytes : List UInt8 => bytes.getD index 0) received.bytes
  rw [encoded, byte]
  match index with
  | 0 => exact high_nibble ((try_from_nibble.mp (known_ver_type _)).trans received.nibble.symm)
  | 1 => rfl
  | 2 => rfl
  | 3 => rfl
  | 4 =>
      simp only [keptBits, received.version_nibble, List.getD_cons_succ, List.getD_cons_zero]
      cases packet.version with
      | v2 =>
          change (0 : UInt8) &&& 0 = received.high &&& 0
          rw [UInt8.and_zero, UInt8.and_zero]
      | v3 =>
          change received.high &&& 0x0F &&& 0x0F = received.high &&& 0x0F
          rw [UInt8.and_assoc, UInt8.and_self]
  | 5 => rfl
  | 6 => simp [keptBits]
  | 7 => simp [keptBits]
  | entry + 8 =>
      simp only [List.getD_cons_succ]
      by_cases inside : entry < packet.addresses.bytes.length
      · rw [List.getD_append _ _ _ _ inside, List.getD_append _ _ _ _ inside]
      · cases version : packet.version with
        | v2 =>
            have dropped : versionNibble data = 2 ∧
                8 + ends.addressLen * countByte data ≤ entry + 8 := by
              rw [received.version_nibble, version, received.count, ← received.entries]
              exact ⟨rfl, by omega⟩
            rw [keptBits, if_pos dropped, UInt8.and_zero, UInt8.and_zero]
            all_goals omega
        | v3 =>
            have none := received.trailerLength
            rw [version] at none
            rw [List.length_eq_zero_iff.mp none]
            rfl

theorem canonical_ver_type (received : ends.Received data packet)
    (canonical : ends.Canonical data) :
    (packet.version.asU8 <<< 4) ||| hdwrType = received.verType := by
  have nibble := received.nibble
  have typed : received.verType.toNat % 16 = 1 := by
    have advertisement := canonical.advertisement
    rw [received.bytes] at advertisement
    exact advertisement
  apply UInt8.toNat_inj.mp
  cases version : packet.version with
  | v2 =>
      rw [version] at nibble
      change received.verType.toNat / 16 = 2 at nibble
      change 33 = received.verType.toNat
      omega
  | v3 =>
      rw [version] at nibble
      change received.verType.toNat / 16 = 3 at nibble
      change 49 = received.verType.toNat
      omega

theorem canonical_high (received : ends.Received data packet) (canonical : ends.Canonical data) :
    (match packet.version with
      | .v2 => 0
      | .v3 => received.high &&& 0x0F) = received.high := by
  have nibble := received.version_nibble
  have fourth : data.getD 4 0 = received.high := by
    rw [congrArg (fun other : List UInt8 => other.getD 4 0) received.bytes]
    rfl
  cases version : packet.version with
  | v2 =>
      rw [version] at nibble
      exact ((canonical.auth nibble).1).symm.trans fourth
  | v3 =>
      rw [version] at nibble
      have reserved := canonical.reserved nibble
      rw [fourth] at reserved
      apply UInt8.toNat_inj.mp
      rw [low_nibble]
      omega

theorem canonical_trailer (received : ends.Received data packet)
    (canonical : ends.Canonical data) :
    List.replicate (trailerLen packet.version) 0 = received.trailer := by
  have nibble := received.version_nibble
  have length := received.trailerLength
  cases version : packet.version with
  | v2 =>
      rw [version] at nibble
      have zeros := (canonical.auth nibble).2
      rw [received.count, ← received.entries, Nat.add_comm,
        congrArg (List.drop (packet.addresses.bytes.length + 8)) received.bytes] at zeros
      simp only [List.drop_succ_cons, List.drop_left] at zeros
      exact zeros.symm
  | v3 =>
      rw [version] at length
      rw [List.length_eq_zero_iff.mp length]
      rfl

theorem canonical_bytes (received : ends.Received data packet) (canonical : ends.Canonical data) :
    data = packet.head ++ ([received.check0, received.check1] ++ packet.body) := by
  rw [head, received.interval, received.canonical_high canonical, received.body,
    received.canonical_ver_type canonical, received.canonical_trailer canonical]
  exact received.bytes

theorem encode_canonical (received : ends.Received data packet) (toGroup : ends.ToGroup)
    (canonical : ends.Canonical data) : packet.encode ends.srcIp = data := by
  have bytes := received.canonical_bytes canonical
  have verified := received.verified toGroup
  have full := canonical.checksum
  have covered := packet.covering_even ends.srcIp
  have even : (packet.covering ends.srcIp ++ packet.head).length % 2 = 0 := by
    rw [List.length_append, packet.head_length]
    omega
  have nonzero : wordSum (packet.covering ends.srcIp ++ packet.head) ≠ 0 := by
    have first : 1 ≤ (((packet.version.asU8 <<< 4) ||| hdwrType) : UInt8).toNat := by
      cases packet.version <;> decide
    rw [word_sum_append covered]
    simp only [head, wordSum, words, List.cons_append, List.sum_cons]
    omega
  have sixth : data.getD 6 0 = received.check0 := by
    rw [congrArg (fun other : List UInt8 => other.getD 6 0) received.bytes]
    rfl
  have seventh : data.getD 7 0 = received.check1 := by
    rw [congrArg (fun other : List UInt8 => other.getD 7 0) received.bytes]
    rfl
  rw [sixth, seventh] at full
  rw [congrArg (packet.covering ends.srcIp ++ ·) bytes, ← List.append_assoc] at verified
  have unique := checksum_unique even nonzero verified full
  rw [encode_eq, unique]
  exact bytes.symm

end Received

/-- The encoder writes what the decoder read, bit by bit, and the whole message when what
the decoder dropped is as an encoder writes it. -/
theorem encode_undoes_decode {ends : Endpoints} {data : List UInt8} {packet : VrrpPacket}
    (toGroup : ends.ToGroup) (decoded : decode data ends.srcIp ends.dstIp = .ok packet) :
    (packet.encode ends.srcIp).length = data.length ∧
      (∀ index, (packet.encode ends.srcIp).getD index 0 &&& ends.keptBits data index =
        data.getD index 0 &&& ends.keptBits data index) ∧
      (ends.Canonical data → packet.encode ends.srcIp = data) := by
  rcases exists_received decoded with ⟨received⟩
  exact ⟨received.same_length, received.kept_bits, received.encode_canonical toGroup⟩

theorem encode_undoes_decode_sample :
    ({ version := .v2, vrid := 51, priority := 100, adverIntCs := 100
       addresses := .v4 [0xc0000201] } : VrrpPacket).encode (.v4 0) =
      [0x21, 51, 100, 1, 0, 1, 0xb8, 0xc8, 192, 0, 2, 1, 0, 0, 0, 0, 0, 0, 0, 0] :=
  (@encode_undoes_decode (.v4 0 (.v4 0))
    [0x21, 51, 100, 1, 0, 1, 0xb8, 0xc8, 192, 0, 2, 1, 0, 0, 0, 0, 0, 0, 0, 0] _ trivial
    (by decide +kernel)).2.2
    ⟨by decide, by decide, fun _ => by decide, fun version => by contradiction⟩

end Endpoints

end Failover
