import Failover.Compatibility
import Failover.InstalledAddresses

/-!
# What the source filter lets through

The filter drops a packet whose source is on any interface of the host. A Master
has put the virtual addresses there itself, and the address owner advertises from
one of them.
-/

namespace Failover

open Library VirtualRouter

set_option autoImplicit false

/-- A packet that any router of the same virtual router may have sent. -/
structure VirtualRouter.WellFormed (vrouter : VirtualRouter) (packet : Ipv4Packet)
    (advert : VrrpPacket) : Prop where
  decoded : VrrpPacket.decode packet.payload (.v4 packet.source) (.v4 packet.destination) =
    .ok advert
  ttl : packet.ttl = 255
  version : advert.version = vrouter.version
  vrid : advert.vrid = vrouter.vrid
  interval : advert.adverIntCs = vrouter.advertInterval.toUInt16 * 100
  addresses : ∃ addrs, advert.addresses = .v4 addrs ∧ addrs.Perm vrouter.ipv4Addrs

def Env.Shows (env : Env) (hostAddrs : List IpAddr) (book : AddressBook) : Prop :=
  ∀ addr, env.isLocal addr = true ↔ addr ∈ hostAddrs ∨ ∃ place ∈ book, place.2.addr = addr

namespace VirtualRouter

theorem WellFormed.verified {vrouter : VirtualRouter} {packet : Ipv4Packet} {advert : VrrpPacket}
    (wellFormed : vrouter.WellFormed packet advert) :
    vrouter.verifyVrrpPacket advert packet.ttl = .ok () := by
  obtain ⟨addrs, addresses, listed⟩ := wellFormed.addresses
  have count : addrs.length = vrouter.ipv4Addresses.length := by
    rw [listed.length_eq, ipv4Addrs, List.length_map]
  have all : addrs.all (fun addr => vrouter.ipv4Addrs.contains addr) = true := by
    simpa using fun addr member => listed.mem_iff.mp member
  simp only [verifyVrrpPacket, wellFormed.ttl, wellFormed.vrid, wellFormed.interval, addresses,
    addressChecks, count, all]
  simp

theorem WellFormed.heard_eq {vrouter : VirtualRouter} {packet : Ipv4Packet} {advert : VrrpPacket}
    (wellFormed : vrouter.WellFormed packet advert) (env : Env) :
    vrouter.heard env (.vrrpV4 packet) =
      if env.isLocal (.v4 packet.source) = true then none else some advert := by
  obtain ⟨addrs, addresses, _⟩ := wellFormed.addresses
  simp [heard, accept, wellFormed.decoded, wellFormed.verified, addresses, VrrpAddresses.family,
    macVlan]

theorem ipv4_advert_well_formed {sender receiver : VirtualRouter}
    (group : SameGroup sender receiver) (advertisable : sender.Advertisable) :
    receiver.WellFormed sender.ipv4Advert (sender.advertisement (.v4 sender.ipv4Addrs)) := by
  have understands := advertises_v4 group advertisable sender.primaryIp (.v4 vrrpMcastAddr)
  refine ⟨understands.decoded, rfl, group.version, group.vrid, understands.interval,
    sender.ipv4Addrs, rfl, ?_⟩
  rw [ipv4Addrs, ipv4Addrs, group.ipv4Addresses]

end VirtualRouter

/-- A Master that gets a better router's advertisement steps down exactly when
the source is on no interface of its host. -/
theorem master_yields_iff_source_not_local {built : VirtualRouter} {inst : Instance}
    {book : AddressBook}
    (reachable : Instance.withAddresses.Reachable (Instance.new built, []) (inst, book))
    (master : inst.vrouter.fsm.state = .master) {env : Env} {hostAddrs : List IpAddr}
    (shows : env.Shows hostAddrs book) {packet : Ipv4Packet} {advert : VrrpPacket}
    (wellFormed : inst.vrouter.WellFormed packet advert)
    (superior : inst.vrouter.priority < advert.priority) :
    (inst.step env (.vrrpV4 packet)).1.vrouter.fsm.state = .backup ↔
      .v4 packet.source ∉ hostAddrs ∧ ∀ place ∈ book, place.2.addr ≠ .v4 packet.source := by
  have runs : Instance.RunOf built inst :=
    Instance.run_of_reachable (Machine.with_memory_reachable Instance.machine reachable)
  have sound := runs.sound_of_master master
  have transition := Instance.step_transition sound env (.vrrpV4 packet)
  have heardEq := wellFormed.heard_eq env
  have elsewhere : (.v4 packet.source ∉ hostAddrs ∧
      ∀ place ∈ book, place.2.addr ≠ .v4 packet.source) ↔
        ¬ env.isLocal (.v4 packet.source) = true := by
    rw [shows, not_or]
    simp
  rw [elsewhere]
  by_cases own : env.isLocal (.v4 packet.source) = true
  · rw [if_pos own] at heardEq
    have same := (unheard_idle transition trivial heardEq).1
    simp [same, master, own]
  · rw [if_neg own] at heardEq
    have stepped := state_after_hearing transition heardEq
    rw [master] at stepped
    rw [UInt8.lt_iff_toNat_lt] at superior
    rw [stepped, Candidate.master_yields_iff]
    exact iff_of_true ⟨Nat.ne_of_gt (Nat.zero_lt_of_lt superior), superior.le⟩ own

/-- A Backup of version 2 whose deadline passes at time ten. -/
def Sample.takeover : Instance × AddressBook :=
  Instance.withAddresses.after (Instance.new (Sample.router .v2 100 10), [])
    [(Sample.env 10 0 [] [], .notify .startup), (Sample.env 10 10 [] [], .tick)]

def Sample.masterEnv : Env :=
  Sample.env 10 11 [Sample.virtualIpv4] []

theorem Sample.master_env_shows :
    Sample.masterEnv.Shows [.v4 (Sample.ipv4 10), .v6 (Sample.ipv6 10)] Sample.takeover.2 := by
  have installed : Sample.takeover.2 =
      [("fover4-51-9724", Sample.virtualIpv4)] := by
    decide +kernel
  intro addr
  rw [installed, is_local_iff]
  simp only [Sample.masterEnv, Sample.env, Sample.parent, IpNet.addr, List.mem_cons,
    List.not_mem_nil, or_false, exists_eq_or_imp, exists_eq_left, false_and, exists_false,
    eq_comm, or_assoc]

theorem Sample.well_formed (priority : UInt8) (host : Nat) :
    Sample.takeover.1.vrouter.WellFormed (Sample.router .v2 priority host).ipv4Advert
      ((Sample.router .v2 priority host).advertisement
        (.v4 (Sample.router .v2 priority host).ipv4Addrs)) := by
  apply ipv4_advert_well_formed
  · have reachable := Machine.with_memory_reachable Instance.machine
      (Machine.reachable_after Instance.withAddresses (Instance.new (Sample.router .v2 100 10), [])
        [(Sample.env 10 0 [] [], .notify .startup), (Sample.env 10 10 [] [], .tick)])
    obtain ⟨fsm, config⟩ := (Instance.run_of_reachable reachable).config
    have group := config_to_vr_same_group Sample.parseNet
      (show (Sample.config .v2 priority).SameVirtualRouter (Sample.config .v2 100) from rfl)
      (Sample.parent host) (Sample.parent 10) (Sample.ipv4 host) (Sample.ipv4 10)
    rw [Sample.takeover, config]
    exact ⟨group.version, group.vrid, group.advertInterval, group.ipv4Addresses,
      group.ipv6Addresses⟩
  · exact @config_to_vr_advertisable Sample.parseNet [Sample.config .v2 priority] rfl
      (Sample.config .v2 priority) List.mem_cons_self (Sample.parent host) (Sample.ipv4 host)

/-- The Master steps down for a better router that has an address of its own. -/
theorem takeover_yields :
    (Sample.takeover.1.step Sample.masterEnv
      (.vrrpV4 (Sample.router .v2 200 20).ipv4Advert)).1.vrouter.fsm.state = .backup :=
  (master_yields_iff_source_not_local (Machine.reachable_after _ _ _) (by decide +kernel)
    Sample.master_env_shows (Sample.well_formed 200 20) (by decide +kernel)).mpr
    (by decide +kernel)

/-- The address owner comes back and advertises from the virtual address, which the
Master has on its mac-vlan. -/
theorem owner_unheard :
    Instance.withAddresses.Reachable (Instance.new (Sample.router .v2 100 10), [])
        Sample.takeover ∧
      Sample.takeover.1.vrouter.fsm.state = .master ∧
      Sample.masterEnv.Shows [.v4 (Sample.ipv4 10), .v6 (Sample.ipv6 10)] Sample.takeover.2 ∧
      (∃ advert, Sample.takeover.1.vrouter.WellFormed (Sample.router .v2 255 1).ipv4Advert advert ∧
        Sample.takeover.1.vrouter.priority < advert.priority) ∧
      (Sample.takeover.1.step Sample.masterEnv
        (.vrrpV4 (Sample.router .v2 255 1).ipv4Advert)).1.vrouter.fsm.state = .master :=
  ⟨Machine.reachable_after _ _ _, by decide +kernel, Sample.master_env_shows,
    ⟨_, Sample.well_formed 255 1, by decide +kernel⟩, by decide +kernel⟩

end Failover
