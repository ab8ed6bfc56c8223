import Failover.Teardown

/-!
# Two instances on one mac-vlan

A v2 and a v3 instance with one parent interface and one VRID share their IPv4
mac-vlan. Each runs by itself, and `Shutdown` of either deletes the link unless
an address is left on it.
-/

namespace Failover

open Library VirtualRouter

set_option autoImplicit false

/-- A v2 and a v3 configuration of one accepted list that agree on the parent
interface and on the VRID. -/
structure SharingPair (fromStr : String → Option IpNet) where
  valid : ValidConfigs fromStr
  conf : VrrpVersion → Config
  member : ∀ version, conf version ∈ valid.configs
  versions : ∀ version, (conf version).version = version
  vrid : ∀ version, (conf version).vrid = (conf .v2).vrid
  interfaceName : ∀ version, (conf version).interfaceName = (conf .v2).interfaceName

/-- The host and the calls of `run`, one for each version. -/
structure Site where
  host : Host
  sessions : VrrpVersion → Session

inductive Happening where
  | run (version : VrrpVersion) (now setAt : Instant) (move : Move)
  | autoconfigure (name : String) (net : Ipv6Net)
  deriving DecidableEq

def VrrpVersion.sibling : VrrpVersion → VrrpVersion
  | v2 => v3
  | v3 => v2

def Happening.stops : Happening → Option VrrpVersion
  | .run version _ _ (.handle (.notify .shutdown)) => some version
  | _ => none

namespace Site

def machine : Machine Site Happening Effect where
  step site
    | .run version now setAt move =>
        let (host, session, effects) := (site.sessions version).step site.host now setAt move
        ({ host, sessions := Function.update site.sessions version session }, effects)
    | .autoconfigure name net => ({ site with host := site.host.autoconfigure name net }, [])

def macVlan (site : Site) (version : VrrpVersion) : String :=
  (site.sessions version).inst.vrouter.macVlanInterfaceV4

/-- Every Backup and every Master has its IPv4 mac-vlan, and no event it is notified
of fails for want of an interface. -/
def Usable (site : Site) : Prop :=
  ∀ version, (site.sessions version).Engaged →
    site.host.Has (site.macVlan version) ∧
      ∀ now setAt event name,
        ((site.sessions version).inst.vrouter.notifyMut (site.host.env now setAt) event).result ≠
          .err (.interfaceNotFound name)

/-- An address that is not IPv6 link-local is on the mac-vlan of this router, and does
not go with those that the router withdraws. -/
def KeepsAddress (site : Site) (version : VrrpVersion) : Prop :=
  ∃ link, site.host.link (site.macVlan version) = some link ∧
    ∃ net ∈ link.ips, net.isLinkLocal = false ∧
      ¬ link.Loses (site.host.promotesSecondaries (site.macVlan version))
        (site.sessions version).inst.vrouter.withdrawn net

/-- No router is told to shut down while its sibling is Backup or Master, unless an
address that counts stays on the mac-vlan. -/
def LeavesLink (site : Site) (happening : Happening) : Prop :=
  ∀ version ∈ happening.stops, (site.sessions version).Stoppable →
    (site.sessions version.sibling).Engaged → site.KeepsAddress version

instance (site : Site) (version : VrrpVersion) : Decidable (site.KeepsAddress version) :=
  decidable_of_iff ((site.host.link (site.macVlan version)).any (fun link =>
      link.ips.any fun net => net.isLinkLocal = false ∧
        ¬ link.Loses (site.host.promotesSecondaries (site.macVlan version))
          (site.sessions version).inst.vrouter.withdrawn net) = true)
    (by simp [KeepsAddress, Option.any_eq_true])

instance (site : Site) (happening : Happening) : Decidable (site.LeavesLink happening) :=
  inferInstanceAs (Decidable (∀ version ∈ happening.stops, _ → _ → _))

theorem usable_iff (site : Site) :
    site.Usable ↔ ∀ version, (site.sessions version).Engaged →
      site.host.Has (site.macVlan version) := by
  constructor
  · exact fun usable version engaged => (usable version engaged).1
  · intro linked version engaged
    refine ⟨linked version engaged, fun now setAt event name => ?_⟩
    rcases Host.get_interface_of_has (linked version engaged) now setAt with ⟨interface, found⟩
    exact notify_found found event _

end Site

theorem VrrpVersion.eq_or_sibling (version other : VrrpVersion) :
    other = version ∨ other = version.sibling := by
  cases version <;> cases other <;> simp [sibling]

theorem VrrpVersion.sibling_ne (version : VrrpVersion) : version.sibling ≠ version := by
  cases version <;> simp [sibling]

variable {fromStr : String → Option IpNet}

namespace SharingPair

def built (pair : SharingPair fromStr) (version : VrrpVersion) : VirtualRouter :=
  configToVr fromStr (pair.conf version)

def start (pair : SharingPair fromStr) (host : Host) : Site where
  host
  sessions version := .new (pair.built version)

/-- Each session of the site is a call of `run` on the router of its configuration. -/
def Runs (pair : SharingPair fromStr) (site : Site) : Prop :=
  ∀ version, (site.sessions version).Follows (pair.built version)

theorem runs_step {pair : SharingPair fromStr} (site : Site) (happening : Happening)
    (runs : pair.Runs site) : pair.Runs (Site.machine.step site happening).1 := by
  cases happening with
  | autoconfigure name net => exact runs
  | run version now setAt move =>
      intro other
      by_cases same : other = version
      · subst same
        have course := (site.sessions other).step_course site.host now setAt move
        simp only [Site.machine, Function.update_self]
        exact Session.course_follows course (runs other)
      · simp only [Site.machine, Function.update_of_ne same]
        exact runs other

theorem mac_vlan_of_prepares (pair : SharingPair fromStr) {version : VrrpVersion} {inst : Instance}
    (prepares : Session.Prepares (pair.built version) inst) :
    inst.vrouter.macVlanInterfaceV4 =
        macVlanName (pair.conf .v2).interfaceName (pair.conf .v2).vrid .v4 ∧
      inst.vrouter.Prepared := by
  constructor
  · have name := Session.prepares_v4 prepares
    rw [name, ← pair.interfaceName version, ← pair.vrid version]
    rfl
  · rcases prepares with ⟨parent, primaryIp, _, kept⟩
    rcases kept.config with ⟨fsm, config⟩
    rw [config]
    exact (prepared_of_valid pair.valid.accepted (pair.member version) parent primaryIp).with_fsm
      fsm

theorem mac_vlan_of_serves {pair : SharingPair fromStr} {site : Site} (runs : pair.Runs site)
    {version : VrrpVersion} (serves : (site.sessions version).phase.serves = true) :
    site.macVlan version =
        macVlanName (pair.conf .v2).interfaceName (pair.conf .v2).vrid .v4 ∧
      (site.sessions version).inst.vrouter.Prepared := by
  have follows := runs version
  unfold Session.Follows at follows
  unfold Phase.serves at serves
  split at serves
  · rename_i timer leaving phase
    simp only [phase] at follows
    exact pair.mac_vlan_of_prepares follows
  · contradiction

/-- What `Shutdown` of one router leaves to a sibling that uses the link. -/
theorem shutdown_has_iff {pair : SharingPair fromStr} {site : Site} (runs : pair.Runs site)
    {version : VrrpVersion} (stoppable : (site.sessions version).Stoppable)
    (engaged : (site.sessions version.sibling).Engaged)
    (linked : site.host.Has (site.macVlan version.sibling)) (now setAt : Instant) :
    ((site.sessions version).step site.host now setAt (.handle (.notify .shutdown))).1.Has
        (site.macVlan version.sibling) ↔ site.KeepsAddress version := by
  rcases mac_vlan_of_serves runs stoppable.serves with ⟨name, prepared⟩
  rcases mac_vlan_of_serves runs engaged.1 with ⟨siblingName, _⟩
  rw [siblingName, ← name] at linked ⊢
  rcases Option.isSome_iff_exists.mp linked with ⟨link, present⟩
  rw [(Session.step_stoppable stoppable site.host now setAt).1]
  apply (has_after_shutdown stoppable.2 prepared present now setAt).trans
  constructor
  · exact fun remaining => ⟨link, present, remaining⟩
  · rintro ⟨other, same, remaining⟩
    rw [present] at same
    cases same
    exact remaining

theorem usable_step_iff {pair : SharingPair fromStr} (site : Site) (happening : Happening)
    (runs : pair.Runs site) (usable : site.Usable) :
    (Site.machine.step site happening).1.Usable ↔ site.LeavesLink happening := by
  have linked := (site.usable_iff).mp usable
  rw [Site.usable_iff]
  cases happening with
  | autoconfigure name net =>
      apply iff_of_true
      · intro version engaged
        exact (Host.has_autoconfigure _ name _ net).mpr (linked version engaged)
      · intro version stops
        contradiction
  | run version now setAt move =>
      by_cases continues : (site.sessions version).Continues move
      · have course := (site.sessions version).step_course site.host now setAt move
        apply iff_of_true
        · intro other engaged
          by_cases same : other = version
          · subst same
            simp only [Site.machine, Site.macVlan, Function.update_self] at engaged ⊢
            exact Session.course_engaged course continues (linked other) engaged
          · simp only [Site.machine, Site.macVlan, Function.update_of_ne same] at engaged ⊢
            exact Session.course_keeps_links course continues _ (linked other engaged)
        · intro stopped stops stoppable
          unfold Happening.stops at stops
          split at stops
          · rename_i same
            cases stops
            cases same
            exact absurd stoppable (continues rfl)
          · contradiction
      · -- the notification of `Shutdown` that the sibling has to survive
        have stop : move = .handle (.notify .shutdown) ∧ (site.sessions version).Stoppable := by
          simpa [Session.Continues] using continues
        rcases stop with ⟨rfl, stoppable⟩
        have idle := Session.stopped_not_engaged stoppable now setAt (linked version)
        have decided : site.LeavesLink (.run version now setAt (.handle (.notify .shutdown))) ↔
            ((site.sessions version.sibling).Engaged → site.KeepsAddress version) := by
          constructor
          · exact fun leaves => leaves version rfl stoppable
          · intro leaves stopped stops _
            cases stops
            exact leaves
        rw [decided]
        constructor
        · intro after engaged
          have remains := after version.sibling
          simp only [Site.machine, Site.macVlan,
            Function.update_of_ne version.sibling_ne] at remains
          exact (shutdown_has_iff runs stoppable engaged (linked _ engaged) now setAt).mp
            (remains engaged)
        · intro keeps other engaged
          rcases version.eq_or_sibling other with rfl | rfl
          · simp only [Site.machine, Function.update_self] at engaged
            exact absurd engaged idle
          · simp only [Site.machine, Site.macVlan,
              Function.update_of_ne version.sibling_ne] at engaged ⊢
            exact (shutdown_has_iff runs stoppable engaged (linked _ engaged) now setAt).mpr
              (keeps engaged)

/-- In every interleaving, each Backup and each Master has its IPv4 mac-vlan in all
states exactly when every `Shutdown` next to a Backup or Master sibling leaves an
address behind. -/
theorem mac_vlan_outlives_users_iff (pair : SharingPair fromStr) (host : Host)
    (happenings : List Happening) :
    Site.machine.AllStates Site.Usable (pair.start host) happenings ↔
      Site.machine.AllSteps Site.LeavesLink (pair.start host) happenings := by
  apply Site.machine.all_states_iff_all_steps runs_step usable_step_iff
  · intro version
    rfl
  · intro version engaged
    exact absurd engaged.1 (by simp [start, Session.new, Phase.serves])

end SharingPair

namespace Sample

def sharingPair : SharingPair parseNet where
  valid := { configs := [config .v2 100, config .v3 100], accepted := rfl }
  conf version := config version 100
  member version := by cases version <;> simp
  versions version := rfl
  vrid _ := rfl
  interfaceName _ := rfl

def starts (version : VrrpVersion) : List Happening :=
  List.replicate (match version with | .v2 => 4 | .v3 => 6) (.run version 0 0 .advance)

def shutdown (version : VrrpVersion) : Happening :=
  .run version 0 0 (.handle (.notify .shutdown))

def stranded : Site :=
  Site.machine.after (sharingPair.start host)
    (starts .v2 ++ starts .v3 ++ [shutdown .v2])

end Sample

namespace SharingPair

theorem mac_vlan_outlives_master :
    Site.machine.AllStates Site.Usable (Sample.sharingPair.start Sample.host)
      (Sample.starts .v2 ++ Sample.starts .v3 ++
        [.run .v3 10 10 (.handle .tick), Sample.shutdown .v2]) :=
  (mac_vlan_outlives_users_iff Sample.sharingPair Sample.host
    (Sample.starts .v2 ++ Sample.starts .v3 ++
      [.run .v3 10 10 (.handle .tick), Sample.shutdown .v2])).mpr (by decide +kernel)

/-- Both are Backup when the v2 instance shuts down and takes the mac-vlan with it.
The timer task of the v3 instance ends at its next deadline. -/
theorem shutdown_strands_backup :
    ¬ Site.machine.AllStates Site.Usable (Sample.sharingPair.start Sample.host)
        (Sample.starts .v2 ++ Sample.starts .v3 ++ [Sample.shutdown .v2]) ∧
      ((Site.machine.after (Sample.sharingPair.start Sample.host)
        (Sample.starts .v2 ++ Sample.starts .v3 ++ [Sample.shutdown .v2,
          .run .v3 10 10 (.handle .tick)])).sessions .v3).phase = .serving false false := by
  constructor
  · intro always
    have usable : Sample.stranded.Usable := Site.machine.all_states_last always
    have engaged : (Sample.stranded.sessions .v3).Engaged := by decide +kernel
    have gone : ¬ Sample.stranded.host.Has (Sample.stranded.macVlan .v3) := by decide +kernel
    exact gone (usable .v3 engaged).1
  · decide +kernel

end SharingPair

end Failover
