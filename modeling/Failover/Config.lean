import Failover.Router

/-!
# Configurations and the routers built from them

`validate_configs` and `config_to_vr`. Both parse addresses with the same
`IpNet::from_str`, which is a parameter: `none` is its error.
-/

namespace Failover

set_option autoImplicit false

structure Config where
  name : String
  vrid : UInt8
  ipAddresses : List String
  interfaceName : String
  priority : UInt8
  advertInterval : UInt8
  preemptMode : Bool
  version : VrrpVersion
  deriving DecidableEq, Repr

variable (fromStr : String → Option IpNet)

def validateAddresses (cfg : Config) : List String → Except ConfigError Unit
  | [] => .ok ()
  | addr :: rest =>
      match cfg.version, fromStr addr with
      | .v2, some (.v6 _) => .error (.ipv6NotSupportedInV2 cfg.name addr)
      | .v2, some (.v4 _) => validateAddresses cfg rest
      | .v2, none => .error (.ipFormatting addr)
      | .v3, some _ => validateAddresses cfg rest
      | .v3, none => .error (.ipFormatting addr)

def validateOthers (cfg : Config) : List Config → Except ConfigError Unit
  | [] => .ok ()
  | other :: rest =>
      if other.version ≠ cfg.version then validateOthers cfg rest
      else if other.name = cfg.name then .error (.duplicateName cfg.name cfg.version.asU8)
      else if other.vrid = cfg.vrid then .error (.duplicateVrid cfg.vrid cfg.version.asU8)
      else validateOthers cfg rest

def validateConfigs : List Config → Except ConfigError Unit
  | [] => .ok ()
  | cfg :: rest =>
      if cfg.version = .v3 ∧ 40 < cfg.advertInterval then
        .error (.advertIntervalTooLarge cfg.name cfg.advertInterval)
      else do
        validateAddresses fromStr cfg cfg.ipAddresses
        validateOthers cfg rest
        validateConfigs rest

/-- The first sixteen addresses, split by family; what does not parse is dropped. -/
def configToVr (conf : Config) : VirtualRouter :=
  let addresses := if conf.ipAddresses.length ≤ VrrpPacket.maxIpCount then conf.ipAddresses
    else conf.ipAddresses.take VrrpPacket.maxIpCount
  VirtualRouter.new
    { name := conf.name
      vrid := conf.vrid
      version := conf.version
      ipv4Addresses := addresses.filterMap fun addr => match fromStr addr with
        | some (.v4 net) => some net
        | _ => none
      ipv6Addresses := addresses.filterMap fun addr => match fromStr addr with
        | some (.v6 net) => some net
        | _ => none
      priority := conf.priority
      advertInterval := conf.advertInterval
      preemptMode := conf.preemptMode
      networkInterface := conf.interfaceName }

structure ValidConfigs where
  configs : List Config
  accepted : validateConfigs fromStr configs = .ok ()

variable {fromStr}

theorem except_bind_ok {Error Value Next : Type} {first : Except Error Value}
    {next : Value → Except Error Next} {result : Next} (succeeds : (first >>= next) = .ok result) :
    ∃ value, first = .ok value ∧ next value = .ok result := by
  cases first with
  | error error => cases succeeds
  | ok value => exact ⟨value, rfl, succeeds⟩

theorem valid_configs_cons {cfg : Config} {rest : List Config}
    (accepted : validateConfigs fromStr (cfg :: rest) = .ok ()) :
    (cfg.version = .v3 → cfg.advertInterval ≤ 40) ∧
      validateAddresses fromStr cfg cfg.ipAddresses = .ok () ∧
      validateOthers cfg rest = .ok () ∧ validateConfigs fromStr rest = .ok () := by
  simp only [validateConfigs] at accepted
  split at accepted
  · contradiction
  rename_i short
  obtain ⟨_, addresses, later⟩ := except_bind_ok accepted
  obtain ⟨_, others, remaining⟩ := except_bind_ok later
  refine ⟨?_, addresses, others, remaining⟩
  intro version
  rw [not_and, UInt8.not_lt] at short
  exact short version

theorem valid_config_interval {configs : List Config}
    (accepted : validateConfigs fromStr configs = .ok ()) :
    ∀ cfg ∈ configs, cfg.version = .v3 → cfg.advertInterval ≤ 40 := by
  induction configs with
  | nil => simp
  | cons first rest ih =>
      obtain ⟨interval, _, _, remaining⟩ := valid_configs_cons accepted
      intro cfg member version
      rcases List.mem_cons.mp member with rfl | member
      · exact interval version
      · exact ih remaining cfg member version

theorem validate_addresses_v2 {cfg : Config} (version : cfg.version = .v2)
    {addresses : List String} (accepted : validateAddresses fromStr cfg addresses = .ok ()) :
    ∀ addr ∈ addresses, ∃ net, fromStr addr = some (.v4 net) := by
  induction addresses with
  | nil => simp
  | cons first rest ih =>
      simp only [validateAddresses, version] at accepted
      intro addr member
      cases parsed : fromStr first with
      | none => simp [parsed] at accepted
      | some net =>
          cases net with
          | v6 net => simp [parsed] at accepted
          | v4 net =>
              simp only [parsed] at accepted
              rcases List.mem_cons.mp member with rfl | member
              · exact ⟨net, parsed⟩
              · exact ih accepted addr member

theorem valid_config_addresses {configs : List Config}
    (accepted : validateConfigs fromStr configs = .ok ()) :
    ∀ cfg ∈ configs, validateAddresses fromStr cfg cfg.ipAddresses = .ok () := by
  induction configs with
  | nil => simp
  | cons first rest ih =>
      obtain ⟨_, addresses, _, remaining⟩ := valid_configs_cons accepted
      intro cfg member
      rcases List.mem_cons.mp member with rfl | member
      · exact addresses
      · exact ih remaining cfg member

end Failover
