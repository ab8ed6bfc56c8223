import Failover.MacVlan

/-!
# The configurations that are accepted

The validator compares each configuration with the later ones only and stops at the
first error. It accepts the lists whose configurations are sound one by one and apart
two by two, in any order, and the routers built from them have every address.
-/

namespace Failover

set_option autoImplicit false

namespace IpNet

def asV4 : IpNet → Option Ipv4Net
  | .v4 net => some net
  | .v6 _ => none

def asV6 : IpNet → Option Ipv6Net
  | .v4 _ => none
  | .v6 net => some net

end IpNet

variable (fromStr : String → Option IpNet)

/-- What `validate_configs` is for: intervals that the wire can carry, addresses that the
version can use, and no name or VRID twice within a version. -/
structure Consistent (configs : List Config) : Prop where
  interval : ∀ cfg ∈ configs, cfg.version = .v3 → cfg.advertInterval ≤ 40
  v2Addresses : ∀ cfg ∈ configs, cfg.version = .v2 → ∀ addr ∈ cfg.ipAddresses,
    ∃ net, fromStr addr = some (.v4 net)
  v3Addresses : ∀ cfg ∈ configs, cfg.version = .v3 → ∀ addr ∈ cfg.ipAddresses,
    (∃ net, fromStr addr = some (.v4 net)) ∨ ∃ net, fromStr addr = some (.v6 net)
  distinct : ∀ i j, (left : i < configs.length) → (right : j < configs.length) → i ≠ j →
    configs[i].version = configs[j].version →
      configs[i].name ≠ configs[j].name ∧ configs[i].vrid ≠ configs[j].vrid

/-- The router has the first sixteen addresses of the configuration, each in the list of
its family and in the configured order. -/
structure SplitByFamily (conf : Config) (vrouter : VirtualRouter) (nets : List IpNet) :
    Prop where
  parsed : (conf.ipAddresses.take VrrpPacket.maxIpCount).map fromStr = nets.map some
  ipv4 : vrouter.ipv4Addresses = nets.filterMap IpNet.asV4
  ipv6 : vrouter.ipv6Addresses = nets.filterMap IpNet.asV6
  complete : vrouter.ipv4Addresses.length + vrouter.ipv6Addresses.length =
    min VrrpPacket.maxIpCount conf.ipAddresses.length
  v4Only : vrouter.version = .v2 → vrouter.ipv6Addresses = []

namespace Config

def Takes (cfg : Config) (addr : String) : Prop :=
  match cfg.version with
  | .v2 => ∃ net, fromStr addr = some (.v4 net)
  | .v3 => ∃ net, fromStr addr = some net

def Sound (cfg : Config) : Prop :=
  (cfg.version = .v3 → cfg.advertInterval ≤ 40) ∧ ∀ addr ∈ cfg.ipAddresses, cfg.Takes fromStr addr

def Apart (left right : Config) : Prop :=
  left.version = right.version → left.name ≠ right.name ∧ left.vrid ≠ right.vrid

theorem Apart.symm {left right : Config} (apart : left.Apart right) : right.Apart left := by
  intro same
  obtain ⟨name, vrid⟩ := apart same.symm
  exact ⟨name.symm, vrid.symm⟩

end Config

variable {fromStr}

theorem validate_addresses_iff (cfg : Config) (addresses : List String) :
    validateAddresses fromStr cfg addresses = .ok () ↔
      ∀ addr ∈ addresses, cfg.Takes fromStr addr := by
  induction addresses with
  | nil => simp [validateAddresses]
  | cons first rest ih =>
      rw [List.forall_mem_cons, ← ih]
      cases version : cfg.version with
      | v2 =>
          cases parsed : fromStr first with
          | none => simp [validateAddresses, Config.Takes, version, parsed]
          | some net => cases net <;> simp [validateAddresses, Config.Takes, version, parsed]
      | v3 =>
          cases parsed : fromStr first <;>
            simp [validateAddresses, Config.Takes, version, parsed]

theorem validate_others_iff (cfg : Config) (others : List Config) :
    validateOthers cfg others = .ok () ↔ ∀ other ∈ others, cfg.Apart other := by
  induction others with
  | nil => simp [validateOthers]
  | cons other rest ih =>
      rw [List.forall_mem_cons, ← ih]
      simp only [validateOthers, Config.Apart]
      by_cases version : cfg.version = other.version
      · by_cases name : cfg.name = other.name
        · simp [version, name]
        · by_cases vrid : cfg.vrid = other.vrid
          · simp [version, Ne.symm name, vrid]
          · simp [version, name, vrid, Ne.symm name, Ne.symm vrid]
      · simp [version, Ne.symm version]

theorem validate_configs_iff (configs : List Config) :
    validateConfigs fromStr configs = .ok () ↔
      (∀ cfg ∈ configs, cfg.Sound fromStr) ∧ configs.Pairwise Config.Apart := by
  induction configs with
  | nil => simp [validateConfigs]
  | cons cfg rest ih =>
      rw [List.forall_mem_cons, List.pairwise_cons]
      constructor
      · intro accepted
        obtain ⟨interval, addresses, others, remaining⟩ := valid_configs_cons accepted
        obtain ⟨sound, apart⟩ := ih.mp remaining
        exact ⟨⟨⟨interval, (validate_addresses_iff cfg _).mp addresses⟩, sound⟩,
          (validate_others_iff cfg rest).mp others, apart⟩
      · intro accepted
        obtain ⟨⟨⟨interval, addresses⟩, sound⟩, others, apart⟩ := accepted
        have short : ¬ (cfg.version = .v3 ∧ 40 < cfg.advertInterval) :=
          fun long => UInt8.not_lt.mpr (interval long.1) long.2
        have remaining := ih.mpr ⟨sound, apart⟩
        rw [validateConfigs, if_neg short, (validate_addresses_iff cfg _).mpr addresses,
          (validate_others_iff cfg rest).mpr others, remaining]
        rfl

theorem pairwise_iff_positions {Item : Type} {related : Item → Item → Prop}
    (symmetric : ∀ {left right}, related left right → related right left) (items : List Item) :
    items.Pairwise related ↔
      ∀ i j, (left : i < items.length) → (right : j < items.length) → i ≠ j →
        related items[i] items[j] := by
  rw [List.pairwise_iff_getElem]
  constructor
  · intro ordered i j left right apart
    rcases Nat.lt_or_gt_of_ne apart with before | behind
    · exact ordered i j left right before
    · exact symmetric (ordered j i right left behind)
  · intro all i j left right before
    exact all i j left right before.ne

theorem consistent_iff (configs : List Config) :
    Consistent fromStr configs ↔
      (∀ cfg ∈ configs, cfg.Sound fromStr) ∧ configs.Pairwise Config.Apart := by
  rw [pairwise_iff_positions Config.Apart.symm]
  constructor
  · intro consistent
    constructor
    · intro cfg member
      constructor
      · exact consistent.interval cfg member
      · intro addr listed
        cases version : cfg.version with
        | v2 =>
            simp only [Config.Takes, version]
            exact consistent.v2Addresses cfg member version addr listed
        | v3 =>
            simp only [Config.Takes, version]
            rcases consistent.v3Addresses cfg member version addr listed with
              ⟨net, parsed⟩ | ⟨net, parsed⟩
            · exact ⟨_, parsed⟩
            · exact ⟨_, parsed⟩
    · exact consistent.distinct
  · intro ⟨sound, apart⟩
    constructor
    · exact fun cfg member => (sound cfg member).1
    · intro cfg member version addr listed
      have taken := (sound cfg member).2 addr listed
      simpa only [Config.Takes, version] using taken
    · intro cfg member version addr listed
      have taken := (sound cfg member).2 addr listed
      simp only [Config.Takes, version] at taken
      obtain ⟨net, parsed⟩ := taken
      cases net with
      | v4 net => exact .inl ⟨net, parsed⟩
      | v6 net => exact .inr ⟨net, parsed⟩
    · exact apart

theorem Config.Sound.parsed {conf : Config} (sound : conf.Sound fromStr) :
    ∀ addr ∈ conf.ipAddresses, ∃ net, fromStr addr = some net := by
  intro addr listed
  have taken := sound.2 addr listed
  unfold Takes at taken
  split at taken
  · exact taken.imp' .v4 fun _ parsed => parsed
  · exact taken

theorem all_parsed {addresses : List String}
    (parse : ∀ addr ∈ addresses, ∃ net, fromStr addr = some net) :
    ∃ nets : List IpNet, addresses.map fromStr = nets.map some := by
  induction addresses with
  | nil => exact ⟨[], rfl⟩
  | cons first rest ih =>
      obtain ⟨net, parsed⟩ := parse first List.mem_cons_self
      obtain ⟨nets, later⟩ := ih fun addr listed => parse addr (List.mem_cons_of_mem first listed)
      exact ⟨net :: nets, by rw [List.map_cons, parsed, later, List.map_cons]⟩

theorem filter_parsed {Net : Type} (pick : IpNet → Option Net) {addresses : List String}
    {nets : List IpNet} (parsed : addresses.map fromStr = nets.map some) :
    addresses.filterMap (fun addr => (fromStr addr).bind pick) = nets.filterMap pick := by
  have same := congrArg (List.filterMap fun net => net.bind pick) parsed
  rw [List.filterMap_map, List.filterMap_map] at same
  exact same

theorem family_split_length (nets : List IpNet) :
    (nets.filterMap IpNet.asV4).length + (nets.filterMap IpNet.asV6).length = nets.length := by
  induction nets with
  | nil => rfl
  | cons net rest ih =>
      cases net with
      | v4 net =>
          simp only [List.filterMap_cons, IpNet.asV4, IpNet.asV6, List.length_cons]
          omega
      | v6 net =>
          simp only [List.filterMap_cons, IpNet.asV4, IpNet.asV6, List.length_cons]
          omega

/-- The error branch of `config_to_vr`, which drops an address, is never taken. -/
theorem config_to_vr_splits {conf : Config} (sound : conf.Sound fromStr) :
    ∃ nets, SplitByFamily fromStr conf (configToVr fromStr conf) nets := by
  let addresses := conf.ipAddresses.take VrrpPacket.maxIpCount
  obtain ⟨nets, parsed⟩ : ∃ nets : List IpNet, addresses.map fromStr = nets.map some :=
    all_parsed fun addr listed => sound.parsed addr (List.mem_of_mem_take listed)
  have used : (if conf.ipAddresses.length ≤ VrrpPacket.maxIpCount then conf.ipAddresses
      else conf.ipAddresses.take VrrpPacket.maxIpCount) = addresses := by
    split
    · rename_i few
      exact (List.take_of_length_le few).symm
    · rfl
  have ipv4 : (configToVr fromStr conf).ipv4Addresses = nets.filterMap IpNet.asV4 := by
    rw [← filter_parsed IpNet.asV4 parsed, ← used]
    apply congrArg fun pick => List.filterMap pick _
    funext addr
    cases fromStr addr with
    | none => rfl
    | some net => cases net <;> rfl
  have ipv6 : (configToVr fromStr conf).ipv6Addresses = nets.filterMap IpNet.asV6 := by
    rw [← filter_parsed IpNet.asV6 parsed, ← used]
    apply congrArg fun pick => List.filterMap pick _
    funext addr
    cases fromStr addr with
    | none => rfl
    | some net => cases net <;> rfl
  have count : nets.length = addresses.length := by
    simpa using (congrArg List.length parsed).symm
  refine ⟨nets, parsed, ipv4, ipv6, ?_, ?_⟩
  · rw [ipv4, ipv6, family_split_length, count, List.length_take]
  · intro version
    exact config_to_vr_v4_only version ((validate_addresses_iff conf _).mpr sound.2)

/-- The validator accepts exactly the consistent lists, in any order and with any
configurations left out, and the routers built from an accepted list have the addresses
of their configurations up to the sixteenth. -/
theorem valid_iff_consistent (fromStr : String → Option IpNet) (configs : List Config) :
    (validateConfigs fromStr configs = .ok () ↔ Consistent fromStr configs) ∧
      (∀ other, configs.Perm other →
        (validateConfigs fromStr configs = .ok () ↔ validateConfigs fromStr other = .ok ())) ∧
      (validateConfigs fromStr configs = .ok () →
        (∀ kept : List Config, kept.Sublist configs → validateConfigs fromStr kept = .ok ()) ∧
        ∀ conf ∈ configs, ∃ nets, SplitByFamily fromStr conf (configToVr fromStr conf) nets) := by
  rw [consistent_iff]
  constructor
  · exact validate_configs_iff configs
  constructor
  · intro other same
    rw [validate_configs_iff, validate_configs_iff, same.pairwise_iff Config.Apart.symm]
    simp only [same.mem_iff]
  · intro accepted
    obtain ⟨sound, apart⟩ := (validate_configs_iff configs).mp accepted
    constructor
    · intro kept part
      exact (validate_configs_iff kept).mpr
        ⟨fun cfg member => sound cfg (part.subset member), apart.sublist part⟩
    · exact fun conf member => config_to_vr_splits (sound conf member)

end Failover
