import Failover.Config

/-!
# Names and addresses of the mac-vlans

The naming scheme of `general.rs`, and the fields of a router that `run` fills in
once the parent interface is known and its mac-vlans exist.
-/

namespace Failover

set_option autoImplicit false

/-- 32-bit FNV-1a over the UTF-8 bytes. -/
def fnv1aHash (input : String) : UInt32 :=
  (input.toList.flatMap String.utf8EncodeChar).foldl
    (fun hash byte => (hash ^^^ byte.toUInt32) * 0x01000193) 0x811c9dc5

namespace AddressFamily

def namePrefix : AddressFamily → String
  | v4 => "fover4"
  | v6 => "fover6"

def virtualMac (family : AddressFamily) (vrid : UInt8) : List UInt8 :=
  match family with
  | v4 => [0x00, 0x00, 0x5e, 0x00, 0x01, vrid]
  | v6 => [0x00, 0x00, 0x5e, 0x00, 0x02, vrid]

end AddressFamily

/-- `{:04x}` of a 16-bit number. -/
def hex4 (value : Nat) : String :=
  String.ofList [Nat.digitChar (value / 4096 % 16), Nat.digitChar (value / 256 % 16),
    Nat.digitChar (value / 16 % 16), Nat.digitChar (value % 16)]

def macVlanName (parentIfname : String) (vrid : UInt8) (family : AddressFamily) : String :=
  let hash := (fnv1aHash parentIfname &&& 0xFFFF).toNat
  family.namePrefix ++ "-" ++ vrid.toNat.repr ++ "-" ++ hex4 hash

example : macVlanName "eth0" 51 .v4 = "fover4-51-9724" := by decide

theorem mac_vlan_name_family {parent other : String} {vrid otherVrid : UInt8}
    {family otherFamily : AddressFamily}
    (same : macVlanName parent vrid family = macVlanName other otherVrid otherFamily) :
    family = otherFamily := by
  have chars := congrArg String.toList same
  simp only [macVlanName, String.toList_append, List.append_assoc] at chars
  have prefixes := congrArg (List.take 6) chars
  cases family <;> cases otherFamily <;> simp [AddressFamily.namePrefix] at prefixes ⊢

theorem mac_vlan_name_v6_ne_v4 (parent : String) (vrid : UInt8) :
    macVlanName parent vrid .v6 ≠ macVlanName parent vrid .v4 := by
  intro same
  have families := mac_vlan_name_family same
  contradiction

theorem digit_size : ∀ digit < 16, (Nat.digitChar digit).utf8Size = 1 := by decide

theorem decimal_size (digits : Nat) {value : Nat} (bound : value < 10 ^ (digits + 1)) :
    value.repr.utf8ByteSize ≤ digits + 1 := by
  induction digits generalizing value with
  | zero =>
      rw [Nat.repr_of_lt (by omega), String.utf8ByteSize_singleton, digit_size value (by omega)]
  | succ digits ih =>
      by_cases small : value < 10
      · rw [Nat.repr_of_lt small, String.utf8ByteSize_singleton,
          digit_size value (by omega)]
        omega
      · have higher := ih (show value / 10 < 10 ^ (digits + 1) by omega)
        rw [Nat.repr_of_ge (by omega), String.utf8ByteSize_append, String.utf8ByteSize_singleton,
          digit_size _ (by omega)]
        omega

theorem hex4_size (value : Nat) : (hex4 value).utf8ByteSize = 4 := by
  have digit (place : Nat) : (Nat.digitChar (place % 16)).utf8Size = 1 :=
    digit_size _ (Nat.mod_lt _ (by decide))
  simp [hex4, digit]

/-- Every name fits the 15 bytes of `IFNAMSIZ`. -/
theorem mac_vlan_name_size (parent : String) (vrid : UInt8) (family : AddressFamily) :
    (macVlanName parent vrid family).utf8ByteSize ≤ 15 := by
  have decimal := decimal_size 2 (show vrid.toNat < 10 ^ 3 by have := vrid.toNat_lt; omega)
  have family_size : family.namePrefix.utf8ByteSize = 6 := by cases family <;> rfl
  have dash : "-".utf8ByteSize = 1 := rfl
  simp only [macVlanName, String.utf8ByteSize_append, family_size, dash, hex4_size]
  omega

theorem mac_vlan_name_vrid {parent other : String} {vrid otherVrid : UInt8}
    {family otherFamily : AddressFamily}
    (same : macVlanName parent vrid family = macVlanName other otherVrid otherFamily) :
    vrid = otherVrid := by
  have families := mac_vlan_name_family same
  subst families
  have chars := congrArg String.toList same
  simp only [macVlanName, String.toList_append, List.append_assoc] at chars
  have decimals := List.append_cancel_left (List.append_cancel_left chars)
  have suffix (value : Nat) : ("-".toList ++ (hex4 value).toList).length = 5 := by
    simp [hex4]
  have digits := (List.append_inj' decimals (by rw [suffix, suffix])).1
  rw [Nat.toList_repr, Nat.toList_repr] at digits
  have numbers := congrArg (fun decimal => Nat.ofDigitChars 10 decimal 0) digits
  simp only [Nat.ofDigitChars_ten_toDigits] at numbers
  exact UInt8.toNat_inj.mp numbers

/-- The router as `run` hands it to its tasks: the parent's addresses are its
sources, and the mac-vlan names are those `create_mac_vlan` returned. -/
def VirtualRouter.prepare (vrouter : VirtualRouter) (parent : NetworkInterface)
    (primaryIp : Ipv4Addr) : VirtualRouter :=
  { vrouter with
    primaryIp
    macVlanInterfaceV4 := macVlanName parent.name vrouter.vrid .v4
    macVlanInterfaceV6 := match vrouter.version with
      | .v3 => some (macVlanName parent.name vrouter.vrid .v6)
      | .v2 => vrouter.macVlanInterfaceV6
    primaryIpV6 := match vrouter.version with
      | .v3 => primaryIpv6 parent
      | .v2 => vrouter.primaryIpV6 }

/-- What every handler relies on: only a v3 instance has a v6 side, its two
mac-vlans have different names, and a v2 instance has no IPv6 address. -/
structure VirtualRouter.Prepared (vrouter : VirtualRouter) : Prop where
  v6_side : vrouter.macVlanInterfaceV6.isSome ↔ vrouter.version = .v3
  distinct : ∀ iface, vrouter.macVlanInterfaceV6 = some iface →
    iface ≠ vrouter.macVlanInterfaceV4
  v4_only : vrouter.version = .v2 → vrouter.ipv6Addresses = []

variable {fromStr : String → Option IpNet}

theorem config_to_vr_v4_only {conf : Config} (version : conf.version = .v2)
    (accepted : validateAddresses fromStr conf conf.ipAddresses = .ok ()) :
    (configToVr fromStr conf).ipv6Addresses = [] := by
  have parsed := validate_addresses_v2 version accepted
  simp only [configToVr, VirtualRouter.new, List.filterMap_eq_nil_iff]
  intro addr member
  have listed : addr ∈ conf.ipAddresses := by
    split at member
    · exact member
    · exact List.mem_of_mem_take member
  obtain ⟨net, same⟩ := parsed addr listed
  rw [same]

theorem config_to_vr_v6_side (conf : Config) (parent : NetworkInterface) (primaryIp : Ipv4Addr) :
    ((configToVr fromStr conf).prepare parent primaryIp).macVlanInterfaceV6.isSome = true ↔
      conf.version = .v3 := by
  cases version : conf.version <;>
    simp [VirtualRouter.prepare, configToVr, VirtualRouter.new, version]

theorem config_to_vr_distinct (conf : Config) (parent : NetworkInterface) (primaryIp : Ipv4Addr)
    {iface : String}
    (present : ((configToVr fromStr conf).prepare parent primaryIp).macVlanInterfaceV6 =
      some iface) :
    iface ≠ ((configToVr fromStr conf).prepare parent primaryIp).macVlanInterfaceV4 := by
  cases version : conf.version with
  | v2 => simp [VirtualRouter.prepare, configToVr, VirtualRouter.new, version] at present
  | v3 =>
      simp only [VirtualRouter.prepare, configToVr, VirtualRouter.new, version,
        Option.some.injEq] at present
      subst present
      exact mac_vlan_name_v6_ne_v4 _ _

theorem prepared_of_valid {configs : List Config}
    (accepted : validateConfigs fromStr configs = .ok ()) {conf : Config}
    (member : conf ∈ configs) (parent : NetworkInterface) (primaryIp : Ipv4Addr) :
    ((configToVr fromStr conf).prepare parent primaryIp).Prepared := by
  constructor
  · exact config_to_vr_v6_side conf parent primaryIp
  · exact fun iface => config_to_vr_distinct conf parent primaryIp
  · intro version
    exact config_to_vr_v4_only version (valid_config_addresses accepted conf member)

/-! Hosts on one documentation network, for the closed instances further on. -/

namespace Sample

def virtualIpv4 : IpNet := .v4 { addr := 0xc0000201, prefixLen := 24 }

def virtualIpv6 : IpNet :=
  .v6 { addr := 0x20010db8000000000000000000000001, prefixLen := 64 }

/-- `IpNet::from_str` on the addresses that `config` uses. -/
def parseNet (address : String) : Option IpNet :=
  if address = "192.0.2.1/24" then some virtualIpv4
  else if address = "2001:db8::1/64" then some virtualIpv6
  else none

def config (version : VrrpVersion) (priority : UInt8) : Config where
  name := "VR_1"
  vrid := 51
  ipAddresses := match version with
    | .v2 => ["192.0.2.1/24"]
    | .v3 => ["192.0.2.1/24", "2001:db8::1/64"]
  interfaceName := "eth0"
  priority
  advertInterval := 1
  preemptMode := true
  version

def ipv4 (host : Nat) : Ipv4Addr := BitVec.ofNat 32 (0xc0000200 + host)

def secondIpv4 : IpNet :=
  match virtualIpv4 with
  | .v4 net => .v4 { net with addr := ipv4 2 }
  | .v6 net => .v6 net

/-- The same with another address of the subnet. -/
def parsePair (address : String) : Option IpNet :=
  if address = "192.0.2.2/24" then some secondIpv4 else parseNet address

def ipv6 (host : Nat) : Ipv6Addr :=
  BitVec.ofNat 128 (0x20010db8000000000000000000000000 + host)

def parent (host : Nat) : NetworkInterface where
  name := "eth0"
  mac := some (BitVec.ofNat 48 (0x020000000000 + host))
  ips := [.v4 { addr := ipv4 host, prefixLen := 24 }, .v6 { addr := ipv6 host, prefixLen := 64 }]

def router (version : VrrpVersion) (priority : UInt8) (host : Nat) : VirtualRouter :=
  (configToVr parseNet (config version priority)).prepare (parent host) (ipv4 host)

/-- The host at a given time, with the virtual addresses its mac-vlans hold. -/
def env (host : Nat) (time : Instant) (v4Ips v6Ips : List IpNet) : Env where
  interfaces :=
    [parent host,
      { name := macVlanName "eth0" 51 .v4, mac := some 0x00005e000133, ips := v4Ips },
      { name := macVlanName "eth0" 51 .v6, mac := some 0x00005e000233, ips := v6Ips }]
  now := time
  setAt := time

end Sample

end Failover
