import Failover.AddressEdits
import Failover.SharedMacVlan

/-!
# The addresses of a sibling

Two instances on one mac-vlan edit one set of IPv4 addresses. An instance adds
and removes its own list without looking at the other, so it takes an address
that both configure away from a Master, and the kernel may take along those that
are secondary addresses to one of its own.
-/

namespace Failover

open Library VirtualRouter

set_option autoImplicit false

variable {env : Env} {vrouter next : VirtualRouter} {input : Input} {effects : List Effect}
  {panicked : Bool}

namespace VirtualRouter

theorem ipv4_not_link_local {net : IpNet} (configured : net ∈ vrouter.strIpv4Addresses) :
    net.isLinkLocal = false := by
  rcases List.mem_map.mp configured with ⟨own, _, rfl⟩
  rfl

end VirtualRouter

/-- What a step of an instance does to an IPv4 address on its mac-vlan. -/
theorem Instance.step_holds_iff {inst : Instance} (prepared : inst.vrouter.Prepared)
    (sound : inst.poisoned = false) {host : Host} {net : IpNet}
    (counts : net.isLinkLocal = false)
    (holds : host.Holds inst.vrouter.macVlanInterfaceV4 net) (now setAt : Instant)
    (input : Input) :
    (host.performAll (inst.step (host.env now setAt) input).2).Holds
        inst.vrouter.macVlanInterfaceV4 net ↔
      ¬ (inst.vrouter.Withdraws (host.env now setAt) .v4 input ∧
        host.Loses inst.vrouter.macVlanInterfaceV4 inst.vrouter.strIpv4Addresses net) := by
  rcases Host.get_interface_of_has holds.has now setAt with ⟨interface, link⟩
  by_cases withdraws : inst.vrouter.Withdraws (host.env now setAt) .v4 input
  · rcases withdraws_once prepared link withdraws with ⟨sent, rest, split, adverts, untouched⟩
    have handled : (inst.step (host.env now setAt) input).2 =
        (inst.vrouter.handle (host.env now setAt) input).effects := by
      simp [step, sound]
    have quiet := host.perform_all_sent fun effect member => .inl (adverts effect member)
    have deleted := Host.holds_perform_delete holds inst.vrouter.strIpv4Addresses
    rw [handled, split, Host.perform_all_append, quiet, Host.perform_all_cons]
    simp only [withdraws, true_and]
    rw [← deleted]
    constructor
    · intro kept
      by_contra gone
      exact Host.not_holds_perform_all (.inl gone)
        (fun effect member => (untouched effect member).2 net) kept
    · intro stays
      exact Host.holds_perform_all (.inl counts) stays
        fun effect member => (untouched effect member).1
  · apply iff_of_true
    · apply Host.holds_perform_all (.inl counts) holds
      intro effect member strips
      rcases strips_of_transition (step_transition sound (host.env now setAt) input) member strips
        with ⟨family, own, withdrawn⟩
      cases prepared.mac_vlan_injective own (rfl : inst.vrouter.macVlan .v4 = _)
      exact withdraws withdrawn
    · exact fun both => withdraws both.1

def Session.IsMaster (session : Session) : Prop :=
  session.phase.serves = true ∧ session.inst.vrouter.fsm.state = .master

instance (session : Session) : Decidable session.IsMaster :=
  inferInstanceAs (Decidable (_ ∧ _))

namespace Site

/-- The step of an instance takes no IPv4 address of a Master sibling off the
mac-vlan of that sibling. -/
def SparesMaster (site : Site) : Happening → Prop
  | .run version now setAt move =>
      (site.sessions version.sibling).IsMaster →
        ∀ net ∈ (site.sessions version.sibling).inst.vrouter.strIpv4Addresses,
          site.host.Holds (site.macVlan version.sibling) net →
            (machine.step site (.run version now setAt move)).1.host.Holds
              (site.macVlan version.sibling) net
  | .autoconfigure _ _ => True

/-- An instance that withdraws next to a Master configures none of the Master's
addresses that are on the mac-vlan, nor the primary address of one that the kernel
would delete with it. -/
def WithdrawsApart (site : Site) : Happening → Prop
  | .run version now setAt move =>
      (site.sessions version.sibling).IsMaster →
        (site.sessions version).inst.poisoned = false →
          ∀ input ∈ (site.sessions version).brings move,
            (site.sessions version).inst.vrouter.Withdraws (site.host.env now setAt) .v4 input →
              ∀ net ∈ (site.sessions version.sibling).inst.vrouter.strIpv4Addresses,
                site.host.Holds (site.macVlan version) net →
                  ¬ site.host.Loses (site.macVlan version)
                    (site.sessions version).inst.vrouter.strIpv4Addresses net
  | .autoconfigure _ _ => True

instance (site : Site) (happening : Happening) : Decidable (site.SparesMaster happening) :=
  match happening with
  | .run _ _ _ _ => inferInstanceAs (Decidable (_ → ∀ net ∈ _, _ → Host.Holds _ _ _))
  | .autoconfigure _ _ => isTrue trivial

instance (site : Site) (happening : Happening) : Decidable (site.WithdrawsApart happening) :=
  match happening with
  | .run _ _ _ _ => inferInstanceAs (Decidable (_ → _ → ∀ input ∈ _, _ → ∀ net ∈ _, _ → ¬ _))
  | .autoconfigure _ _ => isTrue trivial

end Site

namespace SharingPair

variable {fromStr : String → Option IpNet} {pair : SharingPair fromStr} {site : Site}
  {version : VrrpVersion}

theorem mac_vlan_of_brings (runs : pair.Runs site) {move : Move}
    (brought : (site.sessions version).brings move = some input) :
    site.macVlan version =
        macVlanName (pair.conf .v2).interfaceName (pair.conf .v2).vrid .v4 ∧
      (site.sessions version).inst.vrouter.Prepared := by
  have follows := runs version
  unfold Session.Follows at follows
  cases move with
  | advance =>
      simp only [Session.brings] at brought
      split at brought
      · rename_i phase
        simp only [phase] at follows
        exact pair.mac_vlan_of_prepares follows
      · contradiction
  | handle moved =>
      simp only [Session.brings] at brought
      split at brought
      · rename_i timer leaving phase
        exact mac_vlan_of_serves runs (by rw [phase]; rfl)
      · contradiction
  | finish => contradiction

theorem spares_master_iff (runs : pair.Runs site) (happening : Happening) :
    site.SparesMaster happening ↔ site.WithdrawsApart happening := by
  cases happening with
  | autoconfigure name net => exact Iff.rfl
  | run version now setAt move =>
      apply imp_congr_right
      intro master
      have siblingName := (mac_vlan_of_serves runs master.1).1
      cases brought : (site.sessions version).brings move with
      | none =>
          apply iff_of_true
          · rintro net _ ⟨link, present, member⟩
            exact ⟨link, Session.step_quiet brought present now setAt, member⟩
          · simp
      | some input =>
          rcases mac_vlan_of_brings runs brought with ⟨name, prepared⟩
          have stepped := Session.step_brings brought site.host now setAt
          have shared : site.macVlan version.sibling = site.macVlan version :=
            siblingName.trans name.symm
          simp only [Site.machine, stepped, shared, Option.mem_some_iff, forall_eq']
          cases poisoned : (site.sessions version).inst.poisoned with
          | true =>
              rw [Instance.step_poisoned poisoned]
              simp
          | false =>
              have kept (net : IpNet)
                  (configured : net ∈
                    (site.sessions version.sibling).inst.vrouter.strIpv4Addresses)
                  (holds : site.host.Holds (site.macVlan version) net) :=
                Instance.step_holds_iff prepared poisoned
                  (VirtualRouter.ipv4_not_link_local configured) holds now setAt input
              constructor
              · intro spared _ withdraws net configured holds loses
                exact (kept net configured holds).mp (spared net configured holds)
                  ⟨withdraws, loses⟩
              · intro apart net configured holds
                apply (kept net configured holds).mpr
                rintro ⟨withdraws, loses⟩
                exact apart rfl withdraws net configured holds loses

/-- In every interleaving, no step of an instance takes an address of its Master
sibling off the shared mac-vlan exactly when no instance that withdraws next to a Master
configures an address of the Master that is there, or its primary address while the
kernel promotes none. -/
theorem masters_keep_addresses_iff (pair : SharingPair fromStr) (host : Host)
    (happenings : List Happening) :
    Site.machine.AllSteps Site.SparesMaster (pair.start host) happenings ↔
      Site.machine.AllSteps Site.WithdrawsApart (pair.start host) happenings := by
  apply Site.machine.all_steps_congr pair.Runs
  · exact fun site happening runs => spares_master_iff runs happening
  · exact fun site happening runs _ => runs_step site happening runs
  · intro version
    rfl

/-- The v2 instance is Master when the v3 instance starts as Backup and takes the
address they share off the mac-vlan. -/
theorem starting_backup_strips_master :
    ¬ Site.machine.AllSteps Site.SparesMaster (Sample.sharingPair.start Sample.host)
        (Sample.starts .v2 ++ [.run .v2 10 10 (.handle .tick)] ++ Sample.starts .v3) := by
  decide +kernel

end SharingPair

namespace Sample

/-- The versions have one address each, of one subnet. -/
def subnetConfig : VrrpVersion → Config
  | .v2 => config .v2 100
  | .v3 => { config .v3 100 with ipAddresses := ["192.0.2.2/24"] }

def subnetPair : SharingPair parsePair where
  valid := { configs := [subnetConfig .v2, subnetConfig .v3], accepted := rfl }
  conf := subnetConfig
  member version := by cases version <;> simp
  versions version := by cases version <;> rfl
  vrid version := by cases version <;> rfl
  interfaceName version := by cases version <;> rfl

end Sample

/-- Both are Master when the v2 instance withdraws the primary address of the subnet. -/
example :
    ¬ Site.machine.AllSteps Site.SparesMaster (Sample.subnetPair.start Sample.host)
        (Sample.starts .v2 ++ Sample.starts .v3 ++
          [.run .v2 10 10 (.handle .tick), .run .v3 10 10 (.handle .tick),
            Sample.shutdown .v2]) := by
  decide +kernel

end Failover
