import Failover.Observer

/-!
# Incoming packets

The handlers of `handlers.rs`, run under the lock. A dropped packet changes
nothing; the reason it is logged with is the error of `verifyVrrpPacket`.
-/

namespace Failover

open Library

set_option autoImplicit false

structure Ipv4Packet where
  source : Ipv4Addr
  destination : Ipv4Addr
  ttl : UInt8
  payload : List UInt8
  deriving DecidableEq, Repr

structure EthernetPacket where
  source : MacAddr
  payload : List UInt8
  deriving DecidableEq, Repr

namespace VirtualRouter

def arpReply (interfaceMac : MacAddr) (ethPacket : EthernetPacket) (arpPacket : ArpPacket) :
    ArpFrame :=
  ArpFrame.new
    { dstMac := ethPacket.source, srcMac := interfaceMac, ethertype := 0x806 }
    { hwType := 1
      protoType := 0x0800
      hwLength := 6
      protoLength := 4
      operation := 2
      senderHwAddress := interfaceMac
      senderProtoAddress := arpPacket.targetProtoAddress
      targetHwAddress := arpPacket.senderHwAddress
      targetProtoAddress := arpPacket.senderProtoAddress }

def handleIncomingArpPkt (env : Env) (vrouter : VirtualRouter) (ethPacket : EthernetPacket) :
    Handled :=
  match env.getInterface vrouter.macVlanInterfaceV4 with
  | .error error => .failed vrouter error
  | .ok interface =>
      match ArpPacket.decode ethPacket.payload with
      | .panicked => { result := .panicked, vrouter, effects := [] }
      | .ok none => .unchanged vrouter
      | .ok (some arpPacket) =>
          match interface.mac with
          | none => .unchanged vrouter
          | some interfaceMac =>
              match vrouter.fsm.state with
              | .init => .unchanged vrouter
              -- Both early returns of the Backup branch end like its normal end.
              | .backup => .unchanged vrouter
              | .master =>
                  if arpPacket.operation ≠ 1 ∨ arpPacket.senderHwAddress = interfaceMac then
                    .unchanged vrouter
                  else .done vrouter
                    ((vrouter.ipv4Addrs.filter fun ip => ip = arpPacket.targetProtoAddress).map
                      fun _ => .sendPacketArp interface.name
                        (arpReply interfaceMac ethPacket arpPacket))

def handleIncomingNdpPkt (env : Env) (vrouter : VirtualRouter) (payload : List UInt8) : Handled :=
  match vrouter.macVlanInterfaceV6 with
  | none => .unchanged vrouter
  | some v6Iface =>
      if vrouter.fsm.state ≠ .master then .unchanged vrouter
      else match NdpNeighborSolicitation.decode payload with
        | .panicked => { result := .panicked, vrouter, effects := [] }
        | .ok none => .unchanged vrouter
        | .ok (some ns) =>
            if vrouter.ipv6Addrs.any (fun ip => ip = ns.targetAddress) = false then
              .unchanged vrouter
            else match env.getInterface v6Iface with
              | .error error => .failed vrouter error
              | .ok interface =>
                  match interface.mac with
                  | none => .unchanged vrouter
                  | some interfaceMac => .done vrouter
                      [.sendNeighborAdvertisement v6Iface ns.targetAddress
                        { targetAddress := ns.targetAddress
                          targetLinkAddr := interfaceMac
                          overrideFlag := true }]

/-- The count and the address check against what is configured for the packet's
family, and the count that a mismatch reports. -/
def addressChecks (vrouter : VirtualRouter) (addresses : VrrpAddresses) : Bool × Bool × UInt8 :=
  match addresses with
  | .v4 addrs =>
      (addrs.length = vrouter.ipv4Addresses.length,
        addrs.all (fun a => vrouter.ipv4Addrs.contains a),
        UInt8.ofNat vrouter.ipv4Addresses.length)
  | .v6 addrs =>
      (addrs.length = vrouter.ipv6Addresses.length,
        addrs.all (fun a => vrouter.ipv6Addrs.contains a),
        UInt8.ofNat vrouter.ipv6Addresses.length)

/-- The verifications between the decoder and the dispatch on the state. The
address owner's priority overrides a mismatch of the count or of the list. -/
def verifyVrrpPacket (vrouter : VirtualRouter) (packet : VrrpPacket) (ttl : UInt8) :
    Except PacketError Unit :=
  if ttl ≠ 255 then .error (.badTtl ttl)
  else if packet.vrid ≠ vrouter.vrid then
    .error (.vridMismatch vrouter.vrid packet.vrid)
  else if packet.adverIntCs ≠ vrouter.advertInterval.toUInt16 * 100 then
    .error (.advertIntervalMismatch vrouter.advertInterval (packet.adverIntCs / 100).toUInt8)
  else
    let (countCheck, addrCheck, expectedCount) := vrouter.addressChecks packet.addresses
    if countCheck = false ∧ packet.priority ≠ 255 then
      .error (.ipCountMismatch expectedCount (UInt8.ofNat packet.addresses.len))
    else if addrCheck = false ∧ packet.priority ≠ 255 then .error .ipListMismatch
    else .ok ()

/-- The mac-vlan of the packet's family and the configured addresses of that
family. -/
def familyAddresses (vrouter : VirtualRouter) (addresses : VrrpAddresses) :
    Option (String × List IpNet) :=
  match addresses with
  | .v4 _ => some (vrouter.macVlanInterfaceV4, vrouter.strIpv4Addresses)
  | .v6 _ => match vrouter.macVlanInterfaceV6 with
    | some iface => some (iface, vrouter.strIpv6Addresses)
    | none => none

def dispatchVrrpPacket (env : Env) (vrouter : VirtualRouter) (packet : VrrpPacket)
    (macVlanIface : String) (strAddresses : List IpNet) : Handled :=
  match vrouter.fsm.state with
  | .backup =>
      if packet.priority = 0 then
        .done (vrouter.withFsm (vrouter.fsm.setMasterDownTimer env.setAt vrouter.skewTime)) []
      else if vrouter.preemptMode = false ∨ vrouter.priority ≤ packet.priority then
        .done
          (vrouter.withFsm (vrouter.fsm.setMasterDownTimer env.setAt vrouter.masterDownInterval))
          []
      else if packet.priority < vrouter.priority then
        .done
          (vrouter.withFsm
            ((vrouter.fsm.setState .master).setAdvertTimer env.setAt vrouter.advertInterval.toNat))
          [.virtualAddressAction .add strAddresses macVlanIface]
      else .unchanged vrouter
  | .master =>
      if packet.priority = 0 then
        .done
          (vrouter.withFsm (vrouter.fsm.setAdvertTimer env.setAt vrouter.advertInterval.toNat))
          vrouter.sendAdvertisement
      else if vrouter.priority < packet.priority then
        let stepped := vrouter.withFsm
          ((vrouter.fsm.setMasterDownTimer env.setAt vrouter.masterDownInterval).setState .backup)
        (stepped.notifyMut env .null).before
          [.virtualAddressAction .delete strAddresses macVlanIface]
      else if packet.priority = vrouter.priority then
        let stepped := vrouter.withFsm
          (((vrouter.fsm.setMasterDownTimer env.setAt vrouter.masterDownInterval).setState
            .backup).setEvent .null)
        (stepped.notifyMut env .null).before
          [.virtualAddressAction .delete strAddresses macVlanIface]
      else .unchanged vrouter
  | .init => .unchanged vrouter

def processVrrpPacket (env : Env) (vrouter : VirtualRouter) (payload : List UInt8)
    (srcIp dstIp : IpAddr) (ttl : UInt8) : Handled :=
  match VrrpPacket.decode payload srcIp dstIp with
  | .panicked => { result := .panicked, vrouter, effects := [] }
  | .err _ => .unchanged vrouter
  | .ok packet =>
      match vrouter.verifyVrrpPacket packet ttl with
      | .error _ => .unchanged vrouter
      | .ok () =>
          match vrouter.familyAddresses packet.addresses with
          | none => .unchanged vrouter
          | some (macVlanIface, strAddresses) =>
              vrouter.dispatchVrrpPacket env packet macVlanIface strAddresses

def handleIncomingVrrpV4Pkt (env : Env) (vrouter : VirtualRouter) (ipPacket : Ipv4Packet) :
    Handled :=
  if env.isLocal (.v4 ipPacket.source) then .unchanged vrouter
  else vrouter.processVrrpPacket env ipPacket.payload (.v4 ipPacket.source)
    (.v4 ipPacket.destination) ipPacket.ttl

def handleIncomingVrrpV6Pkt (env : Env) (vrouter : VirtualRouter) (payload : List UInt8)
    (srcIp : Ipv6Addr) : Handled :=
  if env.isLocal (.v6 srcIp) then .unchanged vrouter
  else vrouter.processVrrpPacket env payload (.v6 srcIp) (.v6 vrrpV6McastAddr) 255

end VirtualRouter

end Failover
