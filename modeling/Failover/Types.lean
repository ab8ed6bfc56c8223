import Failover.Library.Bytes

/-!
# Addresses, versions and errors

The types shared by every part of the daemon. Addresses of the standard library
and of `ipnet` are their big-endian bits; a network keeps the host address it was
written with next to its prefix length.
-/

namespace Failover

open Library

set_option autoImplicit false

abbrev Ipv4Addr := BitVec 32
abbrev Ipv6Addr := BitVec 128
abbrev MacAddr := BitVec 48

/-- The bytes of an address in network order. -/
def octets {bits : Nat} (address : BitVec bits) : List UInt8 :=
  toBytes (bits / 8) address.toNat

inductive IpAddr where
  | v4 (addr : Ipv4Addr)
  | v6 (addr : Ipv6Addr)
  deriving DecidableEq, Repr

structure Ipv4Net where
  addr : Ipv4Addr
  prefixLen : Fin 33
  deriving DecidableEq, Repr

structure Ipv6Net where
  addr : Ipv6Addr
  prefixLen : Fin 129
  deriving DecidableEq, Repr

inductive IpNet where
  | v4 (net : Ipv4Net)
  | v6 (net : Ipv6Net)
  deriving DecidableEq, Repr

def IpNet.addr : IpNet → IpAddr
  | .v4 net => .v4 net.addr
  | .v6 net => .v6 net.addr

inductive PacketError where
  | unsupportedVersion (version : UInt8)
  | malformed
  | badTtl (ttl : UInt8)
  | badChecksum
  | vridMismatch (expected received : UInt8)
  | advertIntervalMismatch (expected received : UInt8)
  | ipCountMismatch (expected received : UInt8)
  | ipListMismatch
  deriving DecidableEq, Repr

/-- The system errors that some variants wrap are left out; the names stay. -/
inductive NetworkError where
  | interfaceNotFound (name : String)
  | noIpv4Address (name : String)
  | netlinkConnect
  | interfaceLookup (name : String)
  | notMacVlan (name : String)
  | macVlanMismatch (name reason : String)
  | macVlanCreate (name : String)
  | signalHandler
  | lockPoisoned
  deriving DecidableEq, Repr

inductive ConfigError where
  | ipFormatting (address : String)
  | duplicateName (name : String) (version : UInt8)
  | duplicateVrid (vrid version : UInt8)
  | advertIntervalTooLarge (name : String) (interval : UInt8)
  | ipv6NotSupportedInV2 (name address : String)
  deriving DecidableEq, Repr

inductive VrrpVersion where
  | v2
  | v3
  deriving DecidableEq, Repr

namespace VrrpVersion

def asU8 : VrrpVersion → UInt8
  | v2 => 2
  | v3 => 3

def tryFrom (value : UInt8) : Outcome PacketError VrrpVersion :=
  if value = 2 then .ok v2
  else if value = 3 then .ok v3
  else .err (.unsupportedVersion value)

@[simp] theorem try_from_as_u8 (version : VrrpVersion) : tryFrom version.asU8 = .ok version := by
  cases version <;> rfl

theorem try_from_ne_panicked (value : UInt8) : tryFrom value ≠ .panicked := by
  unfold tryFrom
  split_ifs <;> simp

end VrrpVersion

inductive VrrpAddresses where
  | v4 (addrs : List Ipv4Addr)
  | v6 (addrs : List Ipv6Addr)
  deriving DecidableEq, Repr

def VrrpAddresses.len : VrrpAddresses → Nat
  | v4 addrs => addrs.length
  | v6 addrs => addrs.length

inductive AddressAction where
  | add
  | delete
  deriving DecidableEq, Repr

inductive AddressFamily where
  | v4
  | v6
  deriving DecidableEq, Repr

instance (property : AddressFamily → Prop) [DecidablePred property] :
    Decidable (∀ family, property family) :=
  decidable_of_iff (property .v4 ∧ property .v6)
    ⟨fun both family => by cases family with | v4 => exact both.1 | v6 => exact both.2,
      fun all => ⟨all .v4, all .v6⟩⟩

@[simp] theorem octets_length {bits : Nat} (address : BitVec bits) :
    (octets address).length = bits / 8 :=
  to_bytes_length _ _

theorem octets_flat_map_length {bits : Nat} (addrs : List (BitVec bits)) :
    (addrs.flatMap octets).length = addrs.length * (bits / 8) := by
  rw [List.length_flatMap]
  simp

theorem octets_width {bits : Nat} (whole : bits % 8 = 0) :
    (256 : Nat) ^ (bits / 8) = 2 ^ bits := by
  rw [show (256 : Nat) = 2 ^ 8 by rfl, ← pow_mul]
  congr 1
  omega

theorem octets_of_nat {bits : Nat} (whole : bits % 8 = 0) (value : Nat) :
    octets (BitVec.ofNat bits value) = toBytes (bits / 8) value := by
  have reduced := to_bytes_mod (bits / 8) 0 value
  rw [Nat.add_zero, octets_width whole] at reduced
  rw [octets, BitVec.toNat_ofNat, reduced]

theorem get_uints_octets {bits : Nat} (whole : bits % 8 = 0) (Error : Type)
    (addrs : List (BitVec bits)) (rest : List UInt8) :
    (getUints (bits / 8) addrs.length (addrs.flatMap octets ++ rest) : Outcome Error _) =
      .ok (addrs.map BitVec.toNat, rest) := by
  have bounded : ∀ value ∈ addrs.map BitVec.toNat, value < 256 ^ (bits / 8) := by
    intro value member
    obtain ⟨addr, _, rfl⟩ := List.mem_map.mp member
    rw [octets_width whole]
    exact addr.isLt
  have read : (getUints (bits / 8) addrs.length
      ((addrs.map BitVec.toNat).flatMap (toBytes (bits / 8)) ++ rest) : Outcome Error _) =
        .ok (addrs.map BitVec.toNat, rest) :=
    get_uints_flat_map bounded (List.length_map _) rest
  rw [List.flatMap_map] at read
  exact read

theorem map_of_nat_to_nat {bits : Nat} (addrs : List (BitVec bits)) :
    (addrs.map BitVec.toNat).map (BitVec.ofNat bits) = addrs := by
  simp [Function.comp_def]

theorem exists_octets {bits : Nat} (whole : bits % 8 = 0) (count : Nat) (bytes : List UInt8)
    (length : bytes.length = bits / 8 * count) :
    ∃ addrs : List (BitVec bits), addrs.length = count ∧ bytes = addrs.flatMap octets := by
  obtain ⟨values, _, valuesLength, taken⟩ :=
    get_uints_total Empty (bits / 8) count bytes (by omega)
  rw [← length, List.take_length] at taken
  refine ⟨values.map (BitVec.ofNat bits), by simpa using valuesLength, ?_⟩
  rw [taken, List.flatMap_map]
  congr 1
  funext value
  exact (octets_of_nat whole value).symm

end Failover
