import Failover.Library.OnesComplement
import Failover.Types

/-!
# Packets on the wire

The encoders and decoders of `packet.rs`. A decoder reads a cursor, and a read
past the end of the buffer would panic; the outcome keeps that apart from the
errors the decoder returns.
-/

namespace Failover

open Library

set_option autoImplicit false

def vrrpProtoNum : UInt8 := 112

def vrrpV6McastAddr : Ipv6Addr := 0xff020000000000000000000000000012

structure VrrpPacket where
  version : VrrpVersion
  vrid : UInt8
  priority : UInt8
  adverIntCs : UInt16
  addresses : VrrpAddresses
  deriving DecidableEq, Repr

namespace VrrpPacket

def maxIpCount : Nat := 16
def hdwrType : UInt8 := 1
def fixedHeaderLen : Nat := 8
def v2AuthTrailerLen : Nat := 8

/-- The writes over bytes six and seven once the buffer is complete. -/
def copyChecksum (buf check : List UInt8) : List UInt8 :=
  buf.take 6 ++ (check ++ buf.drop 8)

/-- Auth type and seconds under version 2, twelve bits of centiseconds under 3. -/
def intervalBytes (packet : VrrpPacket) : List UInt8 :=
  match packet.version with
  | .v2 => [0, (packet.adverIntCs / 100).toUInt8]
  | .v3 => toBytes 2 (packet.adverIntCs &&& 0x0FFF).toNat

def encodeV4 (packet : VrrpPacket) (addrs : List Ipv4Addr) : List UInt8 :=
  let verType := (packet.version.asU8 <<< 4) ||| hdwrType
  let auth := if packet.version = .v2 then toBytes 4 0 ++ toBytes 4 0 else []
  let buf := [verType, packet.vrid, packet.priority, UInt8.ofNat addrs.length] ++
    packet.intervalBytes ++ toBytes 2 0 ++ addrs.flatMap octets ++ auth
  copyChecksum buf (Checksum.new.addBytes buf).checksum

def pseudoHeader (src dst : Ipv6Addr) (len : Nat) : Checksum :=
  (((Checksum.new.addBytes (octets src)).addBytes (octets dst)).addBytes
    (toBytes 4 len)).addBytes [0, 0, 0, vrrpProtoNum]

def encodeV6 (packet : VrrpPacket) (src : Ipv6Addr) (addrs : List Ipv6Addr) : List UInt8 :=
  let verType := (packet.version.asU8 <<< 4) ||| hdwrType
  let buf := [verType, packet.vrid, packet.priority, UInt8.ofNat addrs.length] ++
    toBytes 2 (packet.adverIntCs &&& 0x0FFF).toNat ++ toBytes 2 0 ++ addrs.flatMap octets
  copyChecksum buf ((pseudoHeader src vrrpV6McastAddr buf.length).addBytes buf).checksum

def encode (packet : VrrpPacket) (srcIp : IpAddr) : List UInt8 :=
  match packet.addresses with
  | .v4 addrs => packet.encodeV4 addrs
  | .v6 addrs =>
      let src := match srcIp with
        | .v6 addr => addr
        | .v4 _ => 0
      packet.encodeV6 src addrs

def verifyChecksumV4 (data : List UInt8) : Bool :=
  (Checksum.new.addBytes data).checksum = [0, 0]

def verifyChecksumV6 (data : List UInt8) (src dst : Ipv6Addr) : Bool :=
  ((pseudoHeader src dst data.length).addBytes data).checksum = [0, 0]

/-- The packet and the bytes the cursor has not read when the decoder returns. -/
def decodeV4Cursor (data : List UInt8) : Outcome PacketError (VrrpPacket × List UInt8) :=
  if data.isEmpty then .err .malformed
  else do
    let (verType, buf) ← getU8 data
    let version ← VrrpVersion.tryFrom (verType >>> 4)
    if data.length < fixedHeaderLen then .err .malformed
    else do
      let (vrid, buf) ← getU8 buf
      let (priority, buf) ← getU8 buf
      let (countIp, buf) ← getU8 buf
      let (adverIntCs, buf) ← match version with
        | .v2 => do
            let (_authType, buf) ← getU8 buf
            let (seconds, buf) ← getU8 buf
            Outcome.ok (seconds.toUInt16 * 100, buf)
        | .v3 => do
            let (field, buf) ← getUint 2 buf
            Outcome.ok (UInt16.ofNat field &&& 0x0FFF, buf)
      let trailingAuthLen := if version = .v2 then v2AuthTrailerLen else 0
      let expectedLen := fixedHeaderLen + trailingAuthLen + countIp.toNat * 4
      if maxIpCount < countIp.toNat ∨ expectedLen ≠ data.length then .err .malformed
      else if verifyChecksumV4 data = false then .err .badChecksum
      else do
        let (_checksum, buf) ← getUint 2 buf
        let (bits, buf) ← getUints 4 countIp.toNat buf
        let buf ← match version with
          | .v2 => do
              let (_authData1, buf) ← getUint 4 buf
              let (_authData2, buf) ← getUint 4 buf
              Outcome.ok buf
          | .v3 => Outcome.ok buf
        .ok ({ version, vrid, priority, adverIntCs
               addresses := .v4 (bits.map (BitVec.ofNat 32)) }, buf)

def decodeV6Cursor (data : List UInt8) (src dst : Ipv6Addr) :
    Outcome PacketError (VrrpPacket × List UInt8) :=
  if data.isEmpty then .err .malformed
  else do
    let (verType, buf) ← getU8 data
    let versionRaw := verType >>> 4
    let version ← VrrpVersion.tryFrom versionRaw
    -- VRRPv2 never runs over IPv6.
    if version ≠ .v3 then .err (.unsupportedVersion versionRaw)
    else if data.length < fixedHeaderLen then .err .malformed
    else do
      let (vrid, buf) ← getU8 buf
      let (priority, buf) ← getU8 buf
      let (countIp, buf) ← getU8 buf
      let (field, buf) ← getUint 2 buf
      let adverIntCs := UInt16.ofNat field &&& 0x0FFF
      let expectedLen := fixedHeaderLen + countIp.toNat * 16
      if maxIpCount < countIp.toNat ∨ expectedLen ≠ data.length then .err .malformed
      else if verifyChecksumV6 data src dst = false then .err .badChecksum
      else do
        let (_checksum, buf) ← getUint 2 buf
        let (bits, buf) ← getUints 16 countIp.toNat buf
        .ok ({ version, vrid, priority, adverIntCs
               addresses := .v6 (bits.map (BitVec.ofNat 128)) }, buf)

def decodeV4 (data : List UInt8) : Outcome PacketError VrrpPacket := do
  let (packet, _) ← decodeV4Cursor data
  .ok packet

def decodeV6 (data : List UInt8) (src dst : Ipv6Addr) : Outcome PacketError VrrpPacket := do
  let (packet, _) ← decodeV6Cursor data src dst
  .ok packet

def decode (data : List UInt8) (srcIp dstIp : IpAddr) : Outcome PacketError VrrpPacket :=
  match srcIp, dstIp with
  | .v4 _, _ => decodeV4 data
  | .v6 src, .v6 dst => decodeV6 data src dst
  | .v6 _, .v4 _ => .err .malformed

end VrrpPacket

structure EthernetFrame where
  dstMac : MacAddr
  srcMac : MacAddr
  ethertype : UInt16
  deriving DecidableEq, Repr

structure ArpPacket where
  hwType : UInt16
  protoType : UInt16
  hwLength : UInt8
  protoLength : UInt8
  operation : UInt16
  senderHwAddress : MacAddr
  senderProtoAddress : Ipv4Addr
  targetHwAddress : MacAddr
  targetProtoAddress : Ipv4Addr
  deriving DecidableEq, Repr

def ArpPacket.decode (data : List UInt8) : Outcome Empty (Option ArpPacket) :=
  if data.length ≠ 28 then .ok none
  else do
    let (hwType, buf) ← getUint 2 data
    let (protoType, buf) ← getUint 2 buf
    let (hwLength, buf) ← getU8 buf
    let (protoLength, buf) ← getU8 buf
    let (operation, buf) ← getUint 2 buf
    let (senderHwAddress, buf) ← getUint 6 buf
    let (senderProtoAddress, buf) ← getUint 4 buf
    let (targetHwAddress, buf) ← getUint 6 buf
    let (targetProtoAddress, _buf) ← getUint 4 buf
    .ok (some
      { hwType := UInt16.ofNat hwType
        protoType := UInt16.ofNat protoType
        hwLength, protoLength
        operation := UInt16.ofNat operation
        senderHwAddress := BitVec.ofNat 48 senderHwAddress
        senderProtoAddress := BitVec.ofNat 32 senderProtoAddress
        targetHwAddress := BitVec.ofNat 48 targetHwAddress
        targetProtoAddress := BitVec.ofNat 32 targetProtoAddress })

/-- `u16::to_be` on a little-endian host. -/
def toBe (value : UInt16) : UInt16 := (value <<< 8) ||| (value >>> 8)

/-- The multi-byte fields hold the swapped values that the struct is laid out from. -/
structure ArpFrame where
  dstMac : MacAddr
  srcMac : MacAddr
  ethertype : UInt16
  hardwareType : UInt16
  protocolType : UInt16
  hwAddrLen : UInt8
  protoAddrLen : UInt8
  opcode : UInt16
  senderHwAddr : MacAddr
  senderProtoAddr : Ipv4Addr
  targetHwAddr : MacAddr
  targetProtoAddr : Ipv4Addr
  deriving DecidableEq, Repr

def ArpFrame.new (ethPkt : EthernetFrame) (arpPkt : ArpPacket) : ArpFrame where
  dstMac := ethPkt.dstMac
  srcMac := ethPkt.srcMac
  ethertype := toBe ethPkt.ethertype
  hardwareType := toBe arpPkt.hwType
  protocolType := toBe arpPkt.protoType
  hwAddrLen := arpPkt.hwLength
  protoAddrLen := arpPkt.protoLength
  opcode := toBe arpPkt.operation
  senderHwAddr := arpPkt.senderHwAddress
  senderProtoAddr := arpPkt.senderProtoAddress
  targetHwAddr := arpPkt.targetHwAddress
  targetProtoAddr := arpPkt.targetProtoAddress

structure NdpNeighborAdvertisement where
  targetAddress : Ipv6Addr
  targetLinkAddr : MacAddr
  overrideFlag : Bool
  deriving DecidableEq, Repr

structure NdpNeighborSolicitation where
  targetAddress : Ipv6Addr
  deriving DecidableEq, Repr

/-- The index and the slice are guarded by the length test in front of them. -/
def NdpNeighborSolicitation.decode (data : List UInt8) :
    Outcome Empty (Option NdpNeighborSolicitation) :=
  if data.length < 24 then .ok none
  else do
    let (type, _) ← getU8 data
    if type ≠ 135 then .ok none
    else do
      let (targetOctets, _) ← getUint 16 (data.drop 8)
      .ok (some { targetAddress := BitVec.ofNat 128 targetOctets })

end Failover
