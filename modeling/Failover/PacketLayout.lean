import Failover.Packet

/-!
# The layout that a decoder accepts

A decoder succeeds exactly on the byte strings that have the layout of a packet
and verify. The encoders produce that layout, so decoding undoes encoding.
-/

namespace Failover

open Library

set_option autoImplicit false

namespace VrrpPacket

def trailerLen : VrrpVersion → Nat
  | .v2 => v2AuthTrailerLen
  | .v3 => 0

/-- The centiseconds that the two interval bytes stand for. -/
def intervalField : VrrpVersion → UInt8 → UInt8 → UInt16
  | .v2, _, seconds => seconds.toUInt16 * 100
  | .v3, high, low => UInt16.ofNat (high.toNat * 256 + low.toNat) &&& 0x0FFF

structure HasLayoutV4 (data : List UInt8) (packet : VrrpPacket) : Prop where
  layout : ∃ verType high low check0 check1 addrs trailer,
    data = verType :: packet.vrid :: packet.priority :: UInt8.ofNat addrs.length ::
      high :: low :: check0 :: check1 :: (addrs.flatMap octets ++ trailer) ∧
    VrrpVersion.tryFrom (verType >>> 4) = .ok packet.version ∧
    addrs.length ≤ maxIpCount ∧ trailer.length = trailerLen packet.version ∧
    packet.adverIntCs = intervalField packet.version high low ∧
    packet.addresses = .v4 addrs
  verifies : verifyChecksumV4 data = true

structure HasLayoutV6 (data : List UInt8) (src dst : Ipv6Addr) (packet : VrrpPacket) :
    Prop where
  layout : ∃ verType high low check0 check1 addrs,
    data = verType :: packet.vrid :: packet.priority :: UInt8.ofNat addrs.length ::
      high :: low :: check0 :: check1 :: addrs.flatMap octets ∧
    VrrpVersion.tryFrom (verType >>> 4) = .ok .v3 ∧ packet.version = .v3 ∧
    addrs.length ≤ maxIpCount ∧ packet.adverIntCs = intervalField .v3 high low ∧
    packet.addresses = .v6 addrs
  verifies : verifyChecksumV6 data src dst = true

/-- The reads behind the header, once the length and the checksum have passed. -/
def readBodyV4 (version : VrrpVersion) (countIp : UInt8) (buf : List UInt8) :
    Outcome PacketError (List Nat × List UInt8) := do
  let (bits, buf) ← getUints 4 countIp.toNat buf
  let buf ← match version with
    | .v2 => do
        let (_authData1, buf) ← getUint 4 buf
        let (_authData2, buf) ← getUint 4 buf
        Outcome.ok buf
    | .v3 => Outcome.ok buf
  .ok (bits, buf)

theorem decode_v4_cursor_header {verType : UInt8} {version : VrrpVersion}
    (known : VrrpVersion.tryFrom (verType >>> 4) = .ok version)
    (vrid priority countIp high low check0 check1 : UInt8) (rest : List UInt8) :
    decodeV4Cursor (verType :: vrid :: priority :: countIp :: high :: low :: check0 ::
        check1 :: rest) =
      if maxIpCount < countIp.toNat ∨ trailerLen version + countIp.toNat * 4 ≠ rest.length then
        .err .malformed
      else if verifyChecksumV4 (verType :: vrid :: priority :: countIp :: high :: low ::
          check0 :: check1 :: rest) = false then .err .badChecksum
      else
        readBodyV4 version countIp rest >>= fun body =>
          .ok ({ version, vrid, priority
                 adverIntCs := intervalField version high low
                 addresses := .v4 (body.1.map (BitVec.ofNat 32)) }, body.2) := by
  have long (size : Nat) : ¬ size + 1 + 1 + 1 + 1 + 1 + 1 + 1 + 1 < 8 := by omega
  have exact2 (count size : Nat) : 16 + count * 4 = size + 1 + 1 + 1 + 1 + 1 + 1 + 1 + 1 ↔
      8 + count * 4 = size := by omega
  have exact3 (count size : Nat) : 8 + count * 4 = size + 1 + 1 + 1 + 1 + 1 + 1 + 1 + 1 ↔
      count * 4 = size := by omega
  cases version <;>
    simp [decodeV4Cursor, known, fixedHeaderLen, trailerLen, v2AuthTrailerLen, intervalField,
      readBodyV4, long, exact2, exact3, Outcome.bind_assoc]

theorem read_body_v4 {version : VrrpVersion} {countIp : UInt8} {addrs : List Ipv4Addr}
    {trailer : List UInt8} (count : countIp.toNat = addrs.length)
    (trailerLength : trailer.length = trailerLen version) :
    readBodyV4 version countIp (addrs.flatMap octets ++ trailer) =
      .ok (addrs.map BitVec.toNat, []) := by
  have entries := get_uints_octets (by rfl) PacketError addrs trailer
  simp only [readBodyV4, count]
  rw [show (4 : Nat) = 32 / 8 by rfl, entries]
  cases version with
  | v2 =>
      obtain ⟨auth1, auth2, rfl, length1, length2⟩ : ∃ auth1 auth2, trailer = auth1 ++ auth2 ∧
          auth1.length = 4 ∧ auth2.length = 4 := by
        simp only [trailerLen, v2AuthTrailerLen] at trailerLength
        exact ⟨trailer.take 4, trailer.drop 4, (List.take_append_drop 4 trailer).symm,
          by simp [trailerLength], by simp [trailerLength]⟩
      have second : (getUint 4 auth2 : Outcome PacketError _) = .ok (ofBytes auth2, []) := by
        simpa using get_uint_append length2 []
      simp only [Outcome.ok_bind, get_uint_append length1, second]
  | v3 =>
      rw [List.length_eq_zero_iff.mp trailerLength]
      rfl

theorem eight_bytes {data : List UInt8} (long : ¬ data.length < fixedHeaderLen) :
    ∃ verType vrid priority countIp high low check0 check1 rest,
      data = verType :: vrid :: priority :: countIp :: high :: low :: check0 :: check1 :: rest := by
  rcases data with _ | ⟨verType, _ | ⟨vrid, _ | ⟨priority, _ | ⟨countIp, _ | ⟨high, _ |
    ⟨low, _ | ⟨check0, _ | ⟨check1, rest⟩⟩⟩⟩⟩⟩⟩⟩
  all_goals first
    | exact ⟨verType, vrid, priority, countIp, high, low, check0, check1, rest, rfl⟩
    | simp [fixedHeaderLen] at long

theorem decode_v4_cursor_header_cases (data : List UInt8) :
    (∃ error, decodeV4Cursor data = .err error) ∨
    ∃ verType vrid priority countIp high low check0 check1 rest version,
      data = verType :: vrid :: priority :: countIp :: high :: low :: check0 :: check1 :: rest ∧
        VrrpVersion.tryFrom (verType >>> 4) = .ok version := by
  cases data with
  | nil => exact .inl ⟨.malformed, rfl⟩
  | cons verType tail =>
      cases known : VrrpVersion.tryFrom (verType >>> 4) with
      | err error => exact .inl ⟨error, by simp [decodeV4Cursor, known]⟩
      | panicked => exact absurd known (VrrpVersion.try_from_ne_panicked _)
      | ok version =>
          by_cases short : (verType :: tail).length < fixedHeaderLen
          · refine .inl ⟨.malformed, ?_⟩
            simp only [decodeV4Cursor, List.isEmpty_cons, Bool.false_eq_true, if_false,
              get_u8_cons, Outcome.ok_bind, known, if_pos short]
          · obtain ⟨first, vrid, priority, countIp, high, low, check0, check1, rest, same⟩ :=
              eight_bytes short
            have head : verType = first := (List.cons.inj same).1
            exact .inr ⟨first, vrid, priority, countIp, high, low, check0, check1, rest, version,
              same, head ▸ known⟩

theorem count_of_nat {count : Nat} (few : count ≤ maxIpCount) :
    (UInt8.ofNat count).toNat = count := by
  simp only [maxIpCount] at few
  rw [UInt8.toNat_ofNat', Nat.mod_eq_of_lt (by omega)]

theorem decode_v4_cursor_of_layout {data : List UInt8} {packet : VrrpPacket}
    (has : HasLayoutV4 data packet) : decodeV4Cursor data = .ok (packet, []) := by
  obtain ⟨⟨verType, high, low, check0, check1, addrs, trailer, rfl, known, few, trailerLength,
    interval, addresses⟩, verifies⟩ := has
  have count := count_of_nat few
  have size : (addrs.flatMap octets ++ trailer).length =
      trailerLen packet.version + addrs.length * 4 := by
    rw [List.length_append, trailerLength, octets_flat_map_length, Nat.add_comm]
  rw [decode_v4_cursor_header known, count, size, if_neg (by omega), verifies,
    if_neg (by decide), read_body_v4 count trailerLength, Outcome.ok_bind,
    map_of_nat_to_nat, ← interval, ← addresses]

/-- No byte string makes the decoder panic, and a success leaves nothing unread. -/
theorem decode_v4_cursor_total (data : List UInt8) :
    (∃ error, decodeV4Cursor data = .err error) ∨
    ∃ packet, decodeV4Cursor data = .ok (packet, []) ∧ HasLayoutV4 data packet := by
  rcases decode_v4_cursor_header_cases data with failed | ⟨verType, vrid, priority, countIp, high,
    low, check0, check1, body, version, rfl, known⟩
  · exact .inl failed
  rw [decode_v4_cursor_header known]
  by_cases misfit : maxIpCount < countIp.toNat ∨
      trailerLen version + countIp.toNat * 4 ≠ body.length
  · exact .inl ⟨.malformed, by rw [if_pos misfit]⟩
  rw [if_neg misfit]
  split
  · exact .inl ⟨.badChecksum, rfl⟩
  rename_i verified
  simp only [not_or, Nat.not_lt, not_not] at misfit
  obtain ⟨few, size⟩ := misfit
  obtain ⟨addrs, addrsLength, taken⟩ : ∃ addrs : List Ipv4Addr,
      addrs.length = countIp.toNat ∧ body.take (4 * countIp.toNat) = addrs.flatMap octets :=
    exists_octets (by rfl) _ _ (by simp only [List.length_take]; omega)
  have split := List.take_append_drop (4 * countIp.toNat) body
  rw [taken] at split
  have trailerLength : (body.drop (4 * countIp.toNat)).length = trailerLen version := by
    simp only [List.length_drop]
    omega
  have read := read_body_v4 addrsLength.symm trailerLength
  rw [split] at read
  refine .inr ⟨_, by rw [read, Outcome.ok_bind, map_of_nat_to_nat], ?_⟩
  refine ⟨⟨verType, high, low, check0, check1, addrs, body.drop (4 * countIp.toNat), ?_, known,
    by omega, trailerLength, rfl, rfl⟩, by simpa using verified⟩
  rw [split, addrsLength, UInt8.ofNat_toNat]

theorem decode_v6_cursor_header {verType : UInt8}
    (known : VrrpVersion.tryFrom (verType >>> 4) = .ok .v3) (src dst : Ipv6Addr)
    (vrid priority countIp high low check0 check1 : UInt8) (rest : List UInt8) :
    decodeV6Cursor (verType :: vrid :: priority :: countIp :: high :: low :: check0 ::
        check1 :: rest) src dst =
      if maxIpCount < countIp.toNat ∨ countIp.toNat * 16 ≠ rest.length then .err .malformed
      else if verifyChecksumV6 (verType :: vrid :: priority :: countIp :: high :: low ::
          check0 :: check1 :: rest) src dst = false then .err .badChecksum
      else
        getUints 16 countIp.toNat rest >>= fun body =>
          .ok ({ version := .v3, vrid, priority
                 adverIntCs := intervalField .v3 high low
                 addresses := .v6 (body.1.map (BitVec.ofNat 128)) }, body.2) := by
  have long (size : Nat) : ¬ size + 1 + 1 + 1 + 1 + 1 + 1 + 1 + 1 < 8 := by omega
  have exact (count size : Nat) : 8 + count * 16 = size + 1 + 1 + 1 + 1 + 1 + 1 + 1 + 1 ↔
      count * 16 = size := by omega
  simp [decodeV6Cursor, known, fixedHeaderLen, intervalField, long, exact]

theorem decode_v6_cursor_header_cases (data : List UInt8) (src dst : Ipv6Addr) :
    (∃ error, decodeV6Cursor data src dst = .err error) ∨
    ∃ verType vrid priority countIp high low check0 check1 rest,
      data = verType :: vrid :: priority :: countIp :: high :: low :: check0 :: check1 :: rest ∧
        VrrpVersion.tryFrom (verType >>> 4) = .ok .v3 := by
  cases data with
  | nil => exact .inl ⟨.malformed, rfl⟩
  | cons verType tail =>
      cases known : VrrpVersion.tryFrom (verType >>> 4) with
      | err error => exact .inl ⟨error, by simp [decodeV6Cursor, known]⟩
      | panicked => exact absurd known (VrrpVersion.try_from_ne_panicked _)
      | ok version =>
          cases version with
          | v2 => exact .inl ⟨.unsupportedVersion (verType >>> 4), by simp [decodeV6Cursor, known]⟩
          | v3 =>
              by_cases short : (verType :: tail).length < fixedHeaderLen
              · refine .inl ⟨.malformed, ?_⟩
                simp only [decodeV6Cursor, List.isEmpty_cons, Bool.false_eq_true, if_false,
                  get_u8_cons, Outcome.ok_bind, known, ne_eq, not_true_eq_false, if_pos short]
              · obtain ⟨first, vrid, priority, countIp, high, low, check0, check1, rest, same⟩ :=
                  eight_bytes short
                have head : verType = first := (List.cons.inj same).1
                exact .inr ⟨first, vrid, priority, countIp, high, low, check0, check1, rest, same,
                  head ▸ known⟩

theorem decode_v6_cursor_of_layout {data : List UInt8} {src dst : Ipv6Addr}
    {packet : VrrpPacket} (has : HasLayoutV6 data src dst packet) :
    decodeV6Cursor data src dst = .ok (packet, []) := by
  obtain ⟨⟨verType, high, low, check0, check1, addrs, rfl, known, version, few, interval,
    addresses⟩, verifies⟩ := has
  have count := count_of_nat few
  have size : (addrs.flatMap octets).length = addrs.length * 16 := octets_flat_map_length addrs
  have entries := get_uints_octets (by rfl) PacketError addrs []
  rw [List.append_nil, show 128 / 8 = 16 by rfl] at entries
  rw [decode_v6_cursor_header known, count, size, if_neg (by omega), verifies,
    if_neg (by decide), entries, Outcome.ok_bind, map_of_nat_to_nat, ← interval, ← addresses,
    ← version]

theorem decode_v6_cursor_total (data : List UInt8) (src dst : Ipv6Addr) :
    (∃ error, decodeV6Cursor data src dst = .err error) ∨
    ∃ packet, decodeV6Cursor data src dst = .ok (packet, []) ∧
      HasLayoutV6 data src dst packet := by
  rcases decode_v6_cursor_header_cases data src dst with failed | ⟨verType, vrid, priority,
    countIp, high, low, check0, check1, body, rfl, known⟩
  · exact .inl failed
  rw [decode_v6_cursor_header known]
  by_cases misfit : maxIpCount < countIp.toNat ∨ countIp.toNat * 16 ≠ body.length
  · exact .inl ⟨.malformed, by rw [if_pos misfit]⟩
  rw [if_neg misfit]
  split
  · exact .inl ⟨.badChecksum, rfl⟩
  rename_i verified
  simp only [not_or, Nat.not_lt, not_not] at misfit
  obtain ⟨few, size⟩ := misfit
  obtain ⟨addrs, addrsLength, taken⟩ : ∃ addrs : List Ipv6Addr,
      addrs.length = countIp.toNat ∧ body = addrs.flatMap octets :=
    exists_octets (by rfl) _ _ (by omega)
  have entries := get_uints_octets (by rfl) PacketError addrs []
  rw [List.append_nil, show 128 / 8 = 16 by rfl, addrsLength, ← taken] at entries
  refine .inr ⟨_, by rw [entries, Outcome.ok_bind, map_of_nat_to_nat], ?_⟩
  refine ⟨⟨verType, high, low, check0, check1, addrs, ?_, known, rfl, by omega, rfl, rfl⟩,
    by simpa using verified⟩
  rw [taken, addrsLength, UInt8.ofNat_toNat]

/-- What a successful decode says about the bytes, whatever the family. -/
def HasLayout (data : List UInt8) (srcIp dstIp : IpAddr) (packet : VrrpPacket) : Prop :=
  match srcIp, dstIp with
  | .v4 _, _ => HasLayoutV4 data packet
  | .v6 src, .v6 dst => HasLayoutV6 data src dst packet
  | .v6 _, .v4 _ => False

theorem decode_total (data : List UInt8) (srcIp dstIp : IpAddr) :
    (∃ error, decode data srcIp dstIp = .err error) ∨
    ∃ packet, decode data srcIp dstIp = .ok packet ∧ HasLayout data srcIp dstIp packet := by
  match srcIp, dstIp with
  | .v4 _, _ =>
      rcases decode_v4_cursor_total data with ⟨error, failed⟩ | ⟨packet, decoded, has⟩
      · exact .inl ⟨error, by simp [decode, decodeV4, failed]⟩
      · exact .inr ⟨packet, by simp [decode, decodeV4, decoded], has⟩
  | .v6 src, .v6 dst =>
      rcases decode_v6_cursor_total data src dst with ⟨error, failed⟩ | ⟨packet, decoded, has⟩
      · exact .inl ⟨error, by simp [decode, decodeV6, failed]⟩
      · exact .inr ⟨packet, by simp [decode, decodeV6, decoded], has⟩
  | .v6 _, .v4 _ => exact .inl ⟨.malformed, rfl⟩

theorem decode_ne_panicked (data : List UInt8) (srcIp dstIp : IpAddr) :
    decode data srcIp dstIp ≠ .panicked := by
  rcases decode_total data srcIp dstIp with ⟨error, failed⟩ | ⟨packet, decoded, _⟩
  · simp [failed]
  · simp [decoded]

theorem decode_ok_iff (data : List UInt8) (srcIp dstIp : IpAddr) (packet : VrrpPacket) :
    decode data srcIp dstIp = .ok packet ↔ HasLayout data srcIp dstIp packet := by
  constructor
  · intro decoded
    rcases decode_total data srcIp dstIp with ⟨error, failed⟩ | ⟨other, same, has⟩
    · rw [decoded] at failed
      contradiction
    · rw [decoded] at same
      exact Outcome.ok.inj same ▸ has
  · intro has
    match srcIp, dstIp with
    | .v4 _, _ => simp [decode, decodeV4, decode_v4_cursor_of_layout has]
    | .v6 src, .v6 dst => simp [decode, decodeV6, decode_v6_cursor_of_layout has]
    | .v6 _, .v4 _ => exact has.elim

end VrrpPacket

end Failover
