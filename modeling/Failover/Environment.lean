import Failover.Packet
import Failover.StateMachine

/-!
# What a handler reads from the host and does to it

A handler runs under the lock of its router. It reads the interface table and
the clock, and acts through sockets and netlink. The table a handler sees does
not change while it runs: none of its own actions before its last read touches
the links.
-/

namespace Failover

set_option autoImplicit false

/-- The fields of `pnet::datalink::NetworkInterface` that are read. -/
structure NetworkInterface where
  name : String
  mac : Option MacAddr
  ips : List IpNet
  deriving DecidableEq, Repr

/-- `now` is the clock at a timer test, `setAt` the clock when a timer is armed. -/
structure Env where
  interfaces : List NetworkInterface
  now : Instant
  setAt : Instant

def Env.getInterface (env : Env) (name : String) : Except NetworkError NetworkInterface :=
  match env.interfaces.find? (fun interface => interface.name = name) with
  | some interface => .ok interface
  | none => .error (.interfaceNotFound name)

/-- Whether some interface of the host has this address, whatever its prefix. -/
def Env.isLocal (env : Env) (address : IpAddr) : Bool :=
  env.interfaces.any fun interface => interface.ips.any fun ip => ip.addr = address

/-- The first IPv4 address of an interface. -/
def primaryIpv4 (interface : NetworkInterface) : Except NetworkError Ipv4Addr :=
  match interface.ips.findSome? (fun ip => match ip with
      | .v4 net => some net.addr
      | .v6 _ => none) with
  | some addr => .ok addr
  | none => .error (.noIpv4Address interface.name)

/-- The first IPv6 address of an interface that is not the loopback address. -/
def primaryIpv6 (interface : NetworkInterface) : Option Ipv6Addr :=
  interface.ips.findSome? fun ip => match ip with
    | .v6 net => if net.addr = 1 then none else some net.addr
    | .v4 _ => none

/-- The calls into `network` and `general` that a handler makes. The textual form
that addresses take between `to_string` and `IpNet::from_str` is left out: the
two are inverse on networks. -/
inductive Effect where
  | virtualAddressAction (action : AddressAction) (addresses : List IpNet)
      (interfaceName : String)
  | sendVrrpPacketV4 (ifname : String) (srcIp : Ipv4Addr) (packet : VrrpPacket)
  | sendVrrpPacketV6 (ifname : String) (srcIp : Ipv6Addr) (packet : VrrpPacket)
  | sendPacketArp (ifname : String) (arpFrame : ArpFrame)
  | sendNeighborAdvertisement (ifname : String) (targetAddr : Ipv6Addr)
      (na : NdpNeighborAdvertisement)
  | deleteMacVlan (name : String)
  deriving DecidableEq, Repr

def Effect.IsAdvertisement : Effect → Prop
  | .sendVrrpPacketV4 _ _ _ => True
  | .sendVrrpPacketV6 _ _ _ => True
  | _ => False

def Effect.IsNeighbor : Effect → Prop
  | .sendPacketArp _ _ => True
  | .sendNeighborAdvertisement _ _ _ => True
  | _ => False

theorem get_interface_ok {env : Env} {name : String} {interface : NetworkInterface}
    (found : env.getInterface name = .ok interface) :
    interface ∈ env.interfaces ∧ interface.name = name := by
  unfold Env.getInterface at found
  split at found
  · rename_i other search
    cases found
    exact ⟨List.mem_of_find?_eq_some search, by simpa using List.find?_some search⟩
  · contradiction

theorem is_local_iff (env : Env) (address : IpAddr) :
    env.isLocal address = true ↔
      ∃ interface ∈ env.interfaces, ∃ ip ∈ interface.ips, ip.addr = address := by
  simp [Env.isLocal]

end Failover
