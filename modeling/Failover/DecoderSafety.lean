import Failover.Transition

/-!
# Received bytes cannot panic a decoder

Each decoder with its cursor exposed: the guards in front of the reads leave enough
bytes for every one of them, and a success leaves none.
-/

namespace Failover

open Library

set_option autoImplicit false

/-- The packet and the bytes that the cursor has not read, whatever the family. -/
def VrrpPacket.decodeCursor (data : List UInt8) (srcIp dstIp : IpAddr) :
    Outcome PacketError (VrrpPacket × List UInt8) :=
  match srcIp, dstIp with
  | .v4 _, _ => decodeV4Cursor data
  | .v6 src, .v6 dst => decodeV6Cursor data src dst
  | .v6 _, .v4 _ => .err .malformed

/-- The reads of `ArpPacket.decode` together with the cursor they leave. -/
def ArpPacket.decodeCursor (data : List UInt8) :
    Outcome Empty (Option (ArpPacket × List UInt8)) :=
  if data.length ≠ 28 then .ok none
  else do
    let (hwType, buf) ← getUint 2 data
    let (protoType, buf) ← getUint 2 buf
    let (hwLength, buf) ← getU8 buf
    let (protoLength, buf) ← getU8 buf
    let (operation, buf) ← getUint 2 buf
    let (senderHwAddress, buf) ← getUint 6 buf
    let (senderProtoAddress, buf) ← getUint 4 buf
    let (targetHwAddress, buf) ← getUint 6 buf
    let (targetProtoAddress, buf) ← getUint 4 buf
    .ok (some
      ({ hwType := UInt16.ofNat hwType
         protoType := UInt16.ofNat protoType
         hwLength, protoLength
         operation := UInt16.ofNat operation
         senderHwAddress := BitVec.ofNat 48 senderHwAddress
         senderProtoAddress := BitVec.ofNat 32 senderProtoAddress
         targetHwAddress := BitVec.ofNat 48 targetHwAddress
         targetProtoAddress := BitVec.ofNat 32 targetProtoAddress }, buf))

namespace VrrpPacket

theorem decode_eq_cursor (data : List UInt8) (srcIp dstIp : IpAddr) :
    decode data srcIp dstIp =
      (do
        let (packet, _) ← decodeCursor data srcIp dstIp
        .ok packet) := by
  match srcIp, dstIp with
  | .v4 _, _ => rfl
  | .v6 _, .v6 _ => rfl
  | .v6 _, .v4 _ => rfl

theorem decode_cursor_total (data : List UInt8) (srcIp dstIp : IpAddr) :
    (∃ error, decodeCursor data srcIp dstIp = .err error) ∨
      ∃ packet, decodeCursor data srcIp dstIp = .ok (packet, []) := by
  match srcIp, dstIp with
  | .v4 _, _ =>
      apply (decode_v4_cursor_total data).imp_right
      intro ⟨packet, decoded, _⟩
      exact ⟨packet, decoded⟩
  | .v6 src, .v6 dst =>
      apply (decode_v6_cursor_total data src dst).imp_right
      intro ⟨packet, decoded, _⟩
      exact ⟨packet, decoded⟩
  | .v6 _, .v4 _ => exact .inl ⟨.malformed, rfl⟩

theorem decode_consumes {data : List UInt8} {srcIp dstIp : IpAddr} {packet : VrrpPacket}
    (decoded : decode data srcIp dstIp = .ok packet) :
    decodeCursor data srcIp dstIp = .ok (packet, []) := by
  rw [decode_eq_cursor] at decoded
  rcases decode_cursor_total data srcIp dstIp with ⟨error, failed⟩ | ⟨other, read⟩
  · rw [failed] at decoded
    contradiction
  · rw [read] at decoded
    rw [read, Outcome.ok.inj decoded]

end VrrpPacket

namespace ArpPacket

theorem decode_eq_cursor (data : List UInt8) :
    decode data =
      (do
        let read ← decodeCursor data
        .ok (read.map Prod.fst)) := by
  unfold decode decodeCursor
  split
  · rfl
  · simp only [Outcome.bind_assoc, Outcome.ok_bind, Option.map_some]

theorem decode_cursor_total (data : List UInt8) :
    (data.length ≠ 28 ∧ decodeCursor data = .ok none) ∨
      ∃ packet, decodeCursor data = .ok (some (packet, [])) := by
  by_cases length : data.length = 28
  · apply Or.inr
    simp (disch := (simp only [List.length_drop, length]; decide)) only [decodeCursor, length,
      ne_eq, not_true_eq_false, if_false, get_uint_of_le, get_u8_of_pos, Outcome.ok_bind,
      List.drop_drop]
    have unread : data.drop 28 = [] := List.drop_eq_nil_iff.mpr (by omega)
    simp [unread]
  · exact .inl ⟨length, by simp [decodeCursor, length]⟩

theorem decode_consumes {data : List UInt8} {packet : ArpPacket}
    (decoded : decode data = .ok (some packet)) :
    decodeCursor data = .ok (some (packet, [])) := by
  rw [decode_eq_cursor] at decoded
  rcases decode_cursor_total data with ⟨_, refused⟩ | ⟨other, read⟩
  · simp [refused] at decoded
  · simp only [read, Outcome.ok_bind, Option.map_some, Outcome.ok.injEq, Option.some.injEq]
      at decoded
    rw [read, decoded]

end ArpPacket

/-- No byte string makes a read or a slice of a decoder fail, and the decoders that
succeed have read all of it. -/
theorem received_bytes_never_panic (data : List UInt8) :
    (∀ srcIp dstIp, VrrpPacket.decode data srcIp dstIp ≠ .panicked ∧
      ∀ packet, VrrpPacket.decode data srcIp dstIp = .ok packet →
        VrrpPacket.decodeCursor data srcIp dstIp = .ok (packet, [])) ∧
    (ArpPacket.decode data ≠ .panicked ∧
      ∀ packet, ArpPacket.decode data = .ok (some packet) →
        ArpPacket.decodeCursor data = .ok (some (packet, []))) ∧
    NdpNeighborSolicitation.decode data ≠ .panicked := by
  constructor
  · intro srcIp dstIp
    constructor
    · exact VrrpPacket.decode_ne_panicked data srcIp dstIp
    · exact fun packet => VrrpPacket.decode_consumes
  constructor
  · constructor
    · exact VirtualRouter.arp_decode_ne_panicked data
    · exact fun packet => ArpPacket.decode_consumes
  · exact VirtualRouter.ndp_decode_ne_panicked data

end Failover
