import Failover.PacketLayout

/-!
# The VRRP message format

Which byte strings are messages, and what each field of one says, by the offsets of
the format alone. The decoders accept the strings of the format with any type nibble,
and return what stands in their fields.
-/

namespace Failover

open Library

set_option autoImplicit false

/-- The addresses that a message is decoded with. An IPv4 source goes with a destination
of any family. -/
inductive Endpoints where
  | v4 (src : Ipv4Addr) (dst : IpAddr)
  | v6 (src dst : Ipv6Addr)

def versionNibble (data : List UInt8) : Nat := (data.getD 0 0).toNat / 16
def typeNibble (data : List UInt8) : Nat := (data.getD 0 0).toNat % 16
def countByte (data : List UInt8) : Nat := (data.getD 3 0).toNat

/-- Seconds under version 2, and under version 3 twelve bits of centiseconds. -/
def intervalCs (data : List UInt8) : Nat :=
  if versionNibble data = 2 then 100 * (data.getD 5 0).toNat
  else (data.getD 4 0).toNat % 16 * 256 + (data.getD 5 0).toNat

def addressAt (width : Nat) (data : List UInt8) (entry : Nat) : Nat :=
  ofBytes ((data.drop (8 + width * entry)).take width)

namespace Endpoints

def srcIp : Endpoints → IpAddr
  | v4 src _ => .v4 src
  | v6 src _ => .v6 src

def dstIp : Endpoints → IpAddr
  | v4 _ dst => dst
  | v6 _ dst => .v6 dst

def addressLen : Endpoints → Nat
  | v4 .. => 4
  | v6 .. => 16

/-- What the checksum covers besides the message, which has this length. -/
def pseudo : Endpoints → Nat → List UInt8
  | v4 .., _ => []
  | v6 src dst, len => octets src ++ octets dst ++ toBytes 4 len ++ [0, 0, 0, vrrpProtoNum]

/-- A message of the format, but for its type. -/
structure Framed (ends : Endpoints) (data : List UInt8) : Prop where
  version : match ends with
    | v4 .. => versionNibble data = 2 ∨ versionNibble data = 3
    | v6 .. => versionNibble data = 3
  count : countByte data ≤ 16
  length : data.length =
    8 + ends.addressLen * countByte data + if versionNibble data = 2 then 8 else 0
  checksum : (Checksum.mk (ends.pseudo data.length ++ data)).checksum = [0, 0]

structure WellFormed (ends : Endpoints) (data : List UInt8) : Prop extends ends.Framed data where
  advertisement : typeNibble data = 1

def fields (ends : Endpoints) (data : List UInt8) : VrrpPacket where
  version := if versionNibble data = 2 then .v2 else .v3
  vrid := data.getD 1 0
  priority := data.getD 2 0
  adverIntCs := UInt16.ofNat (intervalCs data)
  addresses := match ends with
    | v4 .. => .v4 ((List.range (countByte data)).map fun entry =>
        BitVec.ofNat 32 (addressAt 4 data entry))
    | v6 .. => .v6 ((List.range (countByte data)).map fun entry =>
        BitVec.ofNat 128 (addressAt 16 data entry))

end Endpoints

theorem try_from_nibble {verType : UInt8} {version : VrrpVersion} :
    VrrpVersion.tryFrom (verType >>> 4) = .ok version ↔
      verType.toNat / 16 = version.asU8.toNat := by
  have nibble : (verType >>> 4).toNat = verType.toNat / 16 := by
    simp [UInt8.toNat_shiftRight, Nat.shiftRight_eq_div_pow]
  have two : verType >>> 4 = 2 ↔ verType.toNat / 16 = 2 := by
    rw [← nibble, ← UInt8.toNat_inj]
    rfl
  have three : verType >>> 4 = 3 ↔ verType.toNat / 16 = 3 := by
    rw [← nibble, ← UInt8.toNat_inj]
    rfl
  simp only [VrrpVersion.tryFrom, two, three]
  cases version with
  | v2 =>
      change _ ↔ verType.toNat / 16 = 2
      split_ifs <;> simp_all
  | v3 =>
      change _ ↔ verType.toNat / 16 = 3
      split_ifs with first <;> simp_all

theorem entries_at {bits : Nat} (whole : bits % 8 = 0) (addrs : List (BitVec bits))
    (trailer : List UInt8) :
    ((List.range addrs.length).map fun entry => BitVec.ofNat bits
      (ofBytes (((addrs.flatMap octets ++ trailer).drop (bits / 8 * entry)).take (bits / 8)))) =
        addrs := by
  induction addrs with
  | nil => rfl
  | cons addr rest ih =>
      have first : (((addr :: rest).flatMap octets ++ trailer).drop (bits / 8 * 0)).take
          (bits / 8) = octets addr := by
        rw [Nat.mul_zero, List.drop_zero, List.flatMap_cons, List.append_assoc]
        exact List.take_left' (octets_length addr)
      have later (entry : Nat) :
          ((addr :: rest).flatMap octets ++ trailer).drop (bits / 8 * (entry + 1)) =
            (rest.flatMap octets ++ trailer).drop (bits / 8 * entry) := by
        rw [List.flatMap_cons, List.append_assoc, Nat.mul_succ, Nat.add_comm, ← List.drop_drop,
          List.drop_left' (octets_length addr)]
      have value : BitVec.ofNat bits (ofBytes (octets addr)) = addr := by
        rw [octets, of_bytes_to_bytes, octets_width whole, Nat.mod_eq_of_lt addr.isLt,
          BitVec.ofNat_toNat, BitVec.setWidth_eq]
      rw [List.length_cons, List.range_succ_eq_map, List.map_cons, List.map_map, first, value]
      congr 1
      calc
        _ = (List.range rest.length).map fun entry => BitVec.ofNat bits
            (ofBytes (((rest.flatMap octets ++ trailer).drop (bits / 8 * entry)).take
              (bits / 8))) := by
          apply List.map_congr_left
          intro entry _
          rw [Function.comp_apply, later]
        _ = rest := ih

namespace VrrpPacket

theorem interval_of_bytes {verType vrid priority countIp high low : UInt8} {version : VrrpVersion}
    {rest : List UInt8} (known : verType.toNat / 16 = version.asU8.toNat) :
    UInt16.ofNat (intervalCs (verType :: vrid :: priority :: countIp :: high :: low :: rest)) =
      intervalField version high low := by
  have highBound := high.toNat_lt
  have lowBound := low.toNat_lt
  have nibble : versionNibble (verType :: vrid :: priority :: countIp :: high :: low :: rest) =
      version.asU8.toNat := known
  apply UInt16.toNat_inj.mp
  rw [intervalCs, nibble, UInt16.toNat_ofNat']
  cases version with
  | v2 =>
      change 100 * low.toNat % 2 ^ 16 = (low.toUInt16 * 100).toNat
      simp only [UInt16.toNat_mul, UInt8.toNat_toUInt16, UInt16.reduceToNat]
      rw [Nat.mul_comm]
  | v3 =>
      change (high.toNat % 16 * 256 + low.toNat) % 2 ^ 16 =
        (UInt16.ofNat (high.toNat * 256 + low.toNat) &&& 0x0FFF).toNat
      rw [UInt16.toNat_and, UInt16.toNat_ofNat',
        show (0x0FFF : UInt16).toNat = 2 ^ 12 - 1 by rfl, Nat.and_two_pow_sub_one_eq_mod]
      omega

end VrrpPacket

namespace Endpoints

open VrrpPacket

theorem version_nibble_cons (byte : UInt8) (rest : List UInt8) :
    versionNibble (byte :: rest) = byte.toNat / 16 := rfl

theorem verifies_v4 (src : Ipv4Addr) (dst : IpAddr) (data : List UInt8) :
    verifyChecksumV4 data = true ↔
      (Checksum.mk ((v4 src dst).pseudo data.length ++ data)).checksum = [0, 0] := by
  rw [verifyChecksumV4, decide_eq_true_iff]
  simp [pseudo, Checksum.new, Checksum.addBytes]

theorem verifies_v6 (src dst : Ipv6Addr) (data : List UInt8) :
    verifyChecksumV6 data src dst = true ↔
      (Checksum.mk ((v6 src dst).pseudo data.length ++ data)).checksum = [0, 0] := by
  rw [verifyChecksumV6, decide_eq_true_iff]
  simp [pseudoHeader, pseudo, Checksum.new, Checksum.addBytes]

theorem trailer_len (version : VrrpVersion) :
    (if version.asU8.toNat = 2 then 8 else 0) = trailerLen version := by
  cases version <;> rfl

theorem fields_v4 (src : Ipv4Addr) (dst : IpAddr)
    {verType vrid priority high low check0 check1 : UInt8} {version : VrrpVersion} {addrs : List Ipv4Addr} (trailer : List UInt8)
    (known : verType.toNat / 16 = version.asU8.toNat) (few : addrs.length ≤ maxIpCount) :
    (v4 src dst).fields (verType :: vrid :: priority :: UInt8.ofNat addrs.length :: high :: low ::
        check0 :: check1 :: (addrs.flatMap octets ++ trailer)) =
      { version, vrid, priority
        adverIntCs := intervalField version high low
        addresses := .v4 addrs } := by
  have read := entries_at (by rfl) addrs trailer
  have same : (if verType.toNat / 16 = 2 then VrrpVersion.v2 else .v3) = version := by
    rw [known]
    cases version <;> rfl
  rw [fields, interval_of_bytes known]
  simp only [versionNibble, countByte, addressAt, List.getD_cons_zero, List.getD_cons_succ,
    count_of_nat few, same, Nat.add_comm 8, List.drop_succ_cons]
  exact congrArg (fun listed => VrrpPacket.mk version vrid priority
    (intervalField version high low) (.v4 listed)) read

theorem fields_v6 (src dst : Ipv6Addr) {verType vrid priority high low check0 check1 : UInt8}
    {addrs : List Ipv6Addr} (known : verType.toNat / 16 = 3) (few : addrs.length ≤ maxIpCount) :
    (v6 src dst).fields (verType :: vrid :: priority :: UInt8.ofNat addrs.length :: high :: low ::
        check0 :: check1 :: addrs.flatMap octets) =
      { version := .v3, vrid, priority
        adverIntCs := intervalField .v3 high low
        addresses := .v6 addrs } := by
  have read := entries_at (by rfl) addrs []
  rw [List.append_nil] at read
  rw [fields, @interval_of_bytes _ _ _ _ _ _ .v3 _ known]
  simp only [versionNibble, countByte, addressAt, List.getD_cons_zero, List.getD_cons_succ,
    count_of_nat few, known, Nat.add_comm 8, List.drop_succ_cons]
  exact congrArg (fun listed => VrrpPacket.mk .v3 vrid priority
    (intervalField .v3 high low) (.v6 listed)) read

theorem framed_of_bytes (ends : Endpoints)
    {verType vrid priority high low check0 check1 : UInt8} {version : VrrpVersion} {count : Nat}
    {rest : List UInt8} (nibble : verType.toNat / 16 = version.asU8.toNat)
    (family : ∀ src dst, ends = v6 src dst → version = .v3) (few : count ≤ maxIpCount)
    (length : rest.length = ends.addressLen * count + trailerLen version)
    (checked : (Checksum.mk (ends.pseudo (verType :: vrid :: priority :: UInt8.ofNat count ::
      high :: low :: check0 :: check1 :: rest).length ++ (verType :: vrid :: priority ::
        UInt8.ofNat count :: high :: low :: check0 :: check1 :: rest))).checksum = [0, 0]) :
    ends.Framed (verType :: vrid :: priority :: UInt8.ofNat count :: high :: low :: check0 ::
      check1 :: rest) := by
  constructor
  · cases ends with
    | v4 src dst =>
        change verType.toNat / 16 = 2 ∨ verType.toNat / 16 = 3
        rw [nibble]
        cases version with
        | v2 => exact .inl rfl
        | v3 => exact .inr rfl
    | v6 src dst =>
        change verType.toNat / 16 = 3
        rw [nibble, family src dst rfl]
        rfl
  · change (UInt8.ofNat count).toNat ≤ 16
    rw [count_of_nat few]
    exact few
  · rw [version_nibble_cons, nibble, trailer_len]
    change rest.length + 8 = 8 + ends.addressLen * (UInt8.ofNat count).toNat + trailerLen version
    rw [count_of_nat few, length]
    omega
  · exact checked

theorem bytes_of_framed {ends : Endpoints} {data : List UInt8} (framed : ends.Framed data) :
    ∃ verType vrid priority countIp high low check0 check1 rest, ∃ version : VrrpVersion,
      data = verType :: vrid :: priority :: countIp :: high :: low :: check0 :: check1 :: rest ∧
        verType.toNat / 16 = version.asU8.toNat ∧
        (∀ src dst, ends = v6 src dst → version = .v3) ∧ countIp.toNat ≤ maxIpCount ∧
        rest.length = ends.addressLen * countIp.toNat + trailerLen version := by
  have known : ∃ version : VrrpVersion, versionNibble data = version.asU8.toNat ∧
      ∀ src dst, ends = v6 src dst → version = .v3 := by
    have allowed := framed.version
    cases ends with
    | v4 src dst =>
        rcases allowed with two | three
        · exact ⟨.v2, two, fun _ _ other => by contradiction⟩
        · exact ⟨.v3, three, fun _ _ _ => rfl⟩
    | v6 src dst => exact ⟨.v3, allowed, fun _ _ _ => rfl⟩
  rcases known with ⟨version, nibble, family⟩
  have length := framed.length
  rw [nibble, trailer_len] at length
  have long : ¬ data.length < fixedHeaderLen := by
    rw [length, fixedHeaderLen]
    omega
  rcases eight_bytes long with
    ⟨verType, vrid, priority, countIp, high, low, check0, check1, rest, rfl⟩
  refine ⟨verType, vrid, priority, countIp, high, low, check0, check1, rest, version, rfl, nibble,
    family, framed.count, ?_⟩
  change rest.length + 8 = 8 + ends.addressLen * countIp.toNat + trailerLen version at length
  omega

theorem layout_v4_iff (src : Ipv4Addr) (dst : IpAddr) (data : List UInt8) (packet : VrrpPacket) :
    HasLayoutV4 data packet ↔
      (v4 src dst).Framed data ∧ packet = (v4 src dst).fields data := by
  constructor
  · rintro ⟨⟨verType, high, low, check0, check1, addrs, trailer, rfl, known, few, trailerLength,
      interval, addresses⟩, verifies⟩
    have nibble := try_from_nibble.mp known
    constructor
    · apply framed_of_bytes (v4 src dst) nibble (fun _ _ other => by contradiction) few
      · rw [List.length_append, octets_flat_map_length, trailerLength, Nat.mul_comm]
        rfl
      · exact (verifies_v4 src dst _).mp verifies
    · rw [fields_v4 src dst trailer nibble few, ← interval, ← addresses]
  · rintro ⟨framed, rfl⟩
    rcases bytes_of_framed framed with ⟨verType, vrid, priority, countIp, high, low, check0, check1,
      rest, version, rfl, nibble, _, few, length⟩
    change rest.length = 4 * countIp.toNat + trailerLen version at length
    have whole : (rest.take (4 * countIp.toNat)).length = 32 / 8 * countIp.toNat := by
      rw [List.length_take, length]
      omega
    rcases exists_octets (by rfl) countIp.toNat _ whole with ⟨addrs, addrsLength, taken⟩
    have trailerLength : (rest.drop (4 * countIp.toNat)).length = trailerLen version := by
      rw [List.length_drop, length]
      omega
    have parts := List.take_append_drop (4 * countIp.toNat) rest
    have counted : UInt8.ofNat addrs.length = countIp := by
      rw [addrsLength, UInt8.ofNat_toNat]
    rw [← addrsLength] at few
    generalize rest.drop (4 * countIp.toNat) = trailer at parts trailerLength
    rw [taken] at parts
    subst parts counted
    rw [fields_v4 src dst _ nibble few]
    exact ⟨⟨verType, high, low, check0, check1, addrs, trailer, rfl, try_from_nibble.mpr nibble,
      few, trailerLength, rfl, rfl⟩, (verifies_v4 src dst _).mpr framed.checksum⟩

theorem layout_v6_iff (src dst : Ipv6Addr) (data : List UInt8) (packet : VrrpPacket) :
    HasLayoutV6 data src dst packet ↔
      (v6 src dst).Framed data ∧ packet = (v6 src dst).fields data := by
  constructor
  · rintro ⟨⟨verType, high, low, check0, check1, addrs, rfl, known, version, few, interval,
      addresses⟩, verifies⟩
    have nibble := try_from_nibble.mp known
    constructor
    · apply framed_of_bytes (v6 src dst) nibble (fun _ _ _ => rfl) few
      · rw [octets_flat_map_length, Nat.mul_comm]
        rfl
      · exact (verifies_v6 src dst _).mp verifies
    · rw [fields_v6 src dst nibble few, ← interval, ← addresses, ← version]
  · rintro ⟨framed, rfl⟩
    rcases bytes_of_framed framed with ⟨verType, vrid, priority, countIp, high, low, check0, check1,
      rest, version, rfl, nibble, family, few, length⟩
    rw [family src dst rfl] at nibble length
    change rest.length = 128 / 8 * countIp.toNat at length
    rcases exists_octets (by rfl) countIp.toNat rest length with ⟨addrs, addrsLength, rfl⟩
    have counted : UInt8.ofNat addrs.length = countIp := by
      rw [addrsLength, UInt8.ofNat_toNat]
    rw [← addrsLength] at few
    subst counted
    rw [fields_v6 src dst nibble few]
    exact ⟨⟨verType, high, low, check0, check1, addrs, rfl, try_from_nibble.mpr nibble, rfl, few,
      rfl, rfl⟩, (verifies_v6 src dst _).mpr framed.checksum⟩

/-- A decoder accepts the messages of the format and returns their fields. -/
theorem decode_ok_iff_framed (ends : Endpoints) (data : List UInt8) (packet : VrrpPacket) :
    decode data ends.srcIp ends.dstIp = .ok packet ↔
      ends.Framed data ∧ packet = ends.fields data := by
  rw [decode_ok_iff]
  cases ends with
  | v4 src dst => exact layout_v4_iff src dst data packet
  | v6 src dst => exact layout_v6_iff src dst data packet

/-- The decoders accept exactly the advertisements, unless the string is a message
with another type nibble, which they do not look at. -/
theorem accepts_iff_well_formed_iff (ends : Endpoints) (data : List UInt8) :
    (((∃ packet, decode data ends.srcIp ends.dstIp = .ok packet) ↔ ends.WellFormed data) ∧
        ∀ packet, decode data ends.srcIp ends.dstIp = .ok packet → packet = ends.fields data) ↔
      (ends.Framed data → typeNibble data = 1) := by
  have accepts : (∃ packet, decode data ends.srcIp ends.dstIp = .ok packet) ↔
      ends.Framed data := by
    simp [decode_ok_iff_framed]
  have reads : ∀ packet, decode data ends.srcIp ends.dstIp = .ok packet →
      packet = ends.fields data :=
    fun packet decoded => ((decode_ok_iff_framed ends data packet).mp decoded).2
  constructor
  · rintro ⟨exact, _⟩ framed
    exact (exact.mp (accepts.mpr framed)).advertisement
  · intro typed
    refine ⟨accepts.trans ⟨fun framed => ⟨framed, typed framed⟩, WellFormed.toFramed⟩, reads⟩

/-- A message of version 2 and type 3, with no address. -/
theorem other_type_accepted :
    ¬ ((∃ packet, decode [0x23, 51, 100, 0, 0, 1, 0x78, 0xcb, 0, 0, 0, 0, 0, 0, 0, 0]
          (v4 0 (.v4 0)).srcIp (v4 0 (.v4 0)).dstIp = .ok packet) ↔
        (v4 0 (.v4 0)).WellFormed [0x23, 51, 100, 0, 0, 1, 0x78, 0xcb, 0, 0, 0, 0, 0, 0, 0, 0]) := by
  intro exact
  have accepted : decode [0x23, 51, 100, 0, 0, 1, 0x78, 0xcb, 0, 0, 0, 0, 0, 0, 0, 0]
      (v4 0 (.v4 0)).srcIp (v4 0 (.v4 0)).dstIp =
        .ok { version := .v2, vrid := 51, priority := 100, adverIntCs := 100
              addresses := .v4 [] } := by decide +kernel
  have typed := (exact.mp ⟨_, accepted⟩).advertisement
  contradiction

end Endpoints

end Failover
