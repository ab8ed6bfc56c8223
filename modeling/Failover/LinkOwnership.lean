import Failover.Daemon
import Failover.Stacking

/-!
# Whose links an instance changes

An instance changes the links that bear the names of its own mac-vlans and no others.
All other links of the host end as they would without the daemon, as long as none of
them is stacked on a mac-vlan that it deletes.
-/

namespace Failover

open Library VirtualRouter

set_option autoImplicit false

namespace Host

theorem link_perform_other {host : Host} {vrouter : VirtualRouter} {effect : Effect}
    (within : effect.Within vrouter) {iface : String}
    (other : ∀ family, vrouter.macVlan family ≠ some iface) :
    (host.perform effect).link iface = host.link iface := by
  rw [link_perform]
  cases present : host.link iface with
  | none => rfl
  | some link =>
      rw [Option.bind_some]
      cases effect with
      | virtualAddressAction action addresses touched =>
          obtain ⟨family, side, _⟩ := within
          have different : touched ≠ iface := fun same => other family (same ▸ side)
          simp [Link.after, different]
      | deleteMacVlan deleted =>
          obtain ⟨family, side⟩ := within
          have different : deleted ≠ iface := fun same => other family (same ▸ side)
          simp [Link.after, different]
      | _ => rfl

theorem link_perform_all_other {host : Host} {vrouter : VirtualRouter} {effects : List Effect}
    (within : ∀ effect ∈ effects, effect.Within vrouter) {iface : String}
    (other : ∀ family, vrouter.macVlan family ≠ some iface) :
    (host.performAll effects).link iface = host.link iface := by
  induction effects generalizing host with
  | nil => rfl
  | cons effect rest ih =>
      rw [perform_all_cons, ih fun later member => within later (List.mem_cons_of_mem effect member)]
      exact link_perform_other (within effect List.mem_cons_self) other

theorem link_autoconfigure_congr {left right : Host} {iface : String}
    (same : left.link iface = right.link iface) (target : String) (net : Ipv6Net) :
    (left.autoconfigure target net).link iface = (right.autoconfigure target net).link iface := by
  have leftLink := left.link_perform (.virtualAddressAction .add [.v6 net] target) iface
  have rightLink := right.link_perform (.virtualAddressAction .add [.v6 net] target) iface
  simp only [perform] at leftLink rightLink
  rw [autoconfigure, autoconfigure, leftLink, rightLink, same]
  rfl

end Host

namespace Session

theorem step_settings (session : Session) (host : Host) (now setAt : Instant) (move : Move) :
    (session.step host now setAt move).1.promotesSecondaries = host.promotesSecondaries := by
  have created {next : Host} {parentIfname name : String} {vrid : UInt8} {family : AddressFamily}
      (made : host.createMacVlan parentIfname vrid family = .ok (next, name)) :
      next.promotesSecondaries = host.promotesSecondaries := by
    rcases (Host.create_mac_vlan_cases made).2 with ⟨rfl, _⟩ | ⟨_, _, _, _, _, _, _, rfl⟩
    · rfl
    · rfl
  have course := session.step_course host now setAt move
  generalize (session.step host now setAt move).1 = next at course ⊢
  generalize (session.step host now setAt move).2.1 = after at course
  cases course with
  | createV4 phase made => exact created made
  | createV6 phase made => exact created made
  | startup => exact (host.perform_all_fixed _).1
  | serves => exact (host.perform_all_fixed _).1
  | stops => exact (host.perform_all_fixed _).1
  | _ => rfl

theorem step_grown (session : Session) (host : Host) (now setAt : Instant) (move : Move) :
    (∀ name, host.Has name → (session.step host now setAt move).1.Has name) ∨
      ∀ name later, (session.step host now setAt move).1.link name = some later →
        ∃ link, host.link name = some link ∧ later.Remains link := by
  have course := session.step_course host now setAt move
  generalize (session.step host now setAt move).1 = next at course ⊢
  generalize (session.step host now setAt move).2.1 = after at course
  cases course with
  | createV4 phase created => exact .inl fun _ => Host.has_create_mac_vlan created
  | createV6 phase created => exact .inl fun _ => Host.has_create_mac_vlan created
  | startup => exact .inr fun _ _ => Host.remains_perform_all
  | serves => exact .inr fun _ _ => Host.remains_perform_all
  | stops => exact .inr fun _ _ => Host.remains_perform_all
  | _ => exact .inl fun _ => id

variable {fromStr : String → Option IpNet} {conf : Config} {host : Host} {session : Session}

theorem Ready.layered (ready : Ready fromStr conf host session) {own : String → Prop}
    (layered : host.Layered own) (parent : ¬ own conf.interfaceName)
    (named : ∀ family, own (macVlanName conf.interfaceName conf.vrid family))
    (now setAt : Instant) (move : Move) :
    (session.step host now setAt move).1.Layered own := by
  have course := session.step_course host now setAt move
  have follows := ready.follows
  generalize (session.step host now setAt move).1 = next at course ⊢
  generalize (session.step host now setAt move).2.1 = after at course
  cases course with
  | createV4 phase created =>
      simp only [Follows, phase] at follows
      obtain ⟨name, primaryIp, inst⟩ := follows
      rw [name, inst] at created
      apply layered.create_mac_vlan created parent
      rw [(Host.create_mac_vlan_ok created).1]
      exact named .v4
  | createV6 phase created =>
      simp only [Follows, phase] at follows
      obtain ⟨name, version, primaryIp, inst⟩ := follows
      rw [name, inst] at created
      apply layered.create_mac_vlan created parent
      rw [(Host.create_mac_vlan_ok created).1]
      exact named .v6
  | startup => exact layered.perform_all _
  | serves => exact layered.perform_all _
  | stops => exact layered.perform_all _
  | _ => exact layered

theorem Ready.link_kept (ready : Ready fromStr conf host session) {iface : String}
    (other : ∀ family, iface ≠ macVlanName conf.interfaceName conf.vrid family)
    (now setAt : Instant) (move : Move) :
    (session.step host now setAt move).1.link iface = host.link iface := by
  have handled {input : Input} (brought : session.brings move = some input) :
      (session.step host now setAt move).1.link iface = host.link iface := by
    have runs := brings_running brought
    obtain ⟨_, _, names⟩ := prepares_linked (ready.prepares runs)
    have stepped := Instance.step_within ready.sound ready.matched (ready.sees runs now setAt) input
    rw [step_brings brought]
    have within : ∀ effect ∈ (session.inst.step (host.env now setAt) input).2,
        effect.Within session.inst.vrouter :=
      fun effect member => (stepped.2.2 effect member).1
    exact Host.link_perform_all_other within
      fun family side => other family (names family iface side).1
  cases brought : session.brings move with
  | some input => exact handled brought
  | none =>
      have course := session.step_course host now setAt move
      have follows := ready.follows
      generalize (session.step host now setAt move).1 = next at course ⊢
      generalize (session.step host now setAt move).2.1 = after at course
      cases course with
      | createV4 phase created =>
          simp only [Follows, phase] at follows
          obtain ⟨name, primaryIp, inst⟩ := follows
          apply (Host.create_mac_vlan_genuine created).2
          rw [name, inst]
          exact other .v4
      | createV6 phase created =>
          simp only [Follows, phase] at follows
          obtain ⟨name, version, primaryIp, inst⟩ := follows
          apply (Host.create_mac_vlan_genuine created).2
          rw [name, inst]
          exact other .v6
      | startup phase => simp [brings, phase] at brought
      | serves timerNext phase task => simp [brings, phase, task] at brought
      | stops phase => simp [brings, phase] at brought
      | _ => rfl

end Session

namespace Daemon

variable {Name : Type*}

/-- No instance names one of its mac-vlans so. -/
def Foreign (conf : Name → Config) (iface : String) : Prop :=
  ∀ name family, iface ≠ macVlanName (conf name).interfaceName (conf name).vrid family

/-- What the kernel alone makes of the links. -/
def undisturbed (host : Host) : List (Occurrence Name) → Host
  | [] => host
  | .autoconfigure iface net :: rest => undisturbed (host.autoconfigure iface net) rest
  | .run _ _ _ _ :: rest => undisturbed host rest

variable [DecidableEq Name] {fromStr : String → Option IpNet} {conf : Name → Config}

/-- The same on a kernel that deletes with a link whatever is stacked on it. -/
def cascading : Machine (Daemon Name) (Occurrence Name) Effect where
  step daemon occurrence :=
    let (next, effects) := machine.step daemon occurrence
    ({ next with host := daemon.host.settle next.host }, effects)

/-- With nothing stacked on the mac-vlans of the daemon, no step deletes anything else, and
nothing comes to be stacked on them. -/
theorem cascading_step (parents : ∀ name, Foreign conf (conf name).interfaceName)
    {daemon : Daemon Name} (ready : Ready fromStr conf daemon)
    (layered : daemon.host.Layered fun iface => ¬ Foreign conf iface)
    (occurrence : Occurrence Name) :
    cascading.step daemon occurrence = machine.step daemon occurrence ∧
      (machine.step daemon occurrence).1.host.Layered fun iface => ¬ Foreign conf iface := by
  have settled (same : daemon.host.settle (machine.step daemon occurrence).1.host =
      (machine.step daemon occurrence).1.host) :
      cascading.step daemon occurrence = machine.step daemon occurrence := by
    simp only [cascading]
    rw [same]
  cases occurrence with
  | autoconfigure target net =>
      have has (name : String) := daemon.host.has_autoconfigure target name net
      constructor
      · apply settled
        exact layered.settle_eq (fun name _ => (has name).mpr) (.inl fun name => (has name).mpr)
      · exact layered.autoconfigure target net
  | run mover now setAt move =>
      constructor
      · apply settled
        apply layered.settle_eq _ ((daemon.sessions mover).step_grown daemon.host now setAt move)
        intro iface foreign present
        have same := (ready mover).link_kept (not_not.mp foreign mover) now setAt move
        change ((daemon.sessions mover).step daemon.host now setAt move).1.Has iface
        rw [Host.Has, same]
        exact present
      · exact (ready mover).layered layered (not_not.mpr (parents mover))
          (fun family foreign => foreign mover family rfl) now setAt move

/-- So what is shown without stacked links holds with them. -/
theorem cascading_run (parents : ∀ name, Foreign conf (conf name).interfaceName)
    {daemon : Daemon Name} (ready : Ready fromStr conf daemon)
    (layered : daemon.host.Layered fun iface => ¬ Foreign conf iface)
    (occurrences : List (Occurrence Name)) :
    cascading.run daemon occurrences = machine.run daemon occurrences := by
  induction occurrences generalizing daemon with
  | nil => rfl
  | cons occurrence rest ih =>
      obtain ⟨stepped, next⟩ := cascading_step parents ready layered occurrence
      rw [Machine.run_cons, Machine.run_cons, stepped, ih (ready_step daemon occurrence ready) next]

theorem link_undisturbed {daemon : Daemon Name} (ready : Ready fromStr conf daemon)
    {alone : Host} {iface : String} (foreign : Foreign conf iface)
    (same : daemon.host.link iface = alone.link iface) (occurrences : List (Occurrence Name)) :
    (machine.after daemon occurrences).host.link iface =
      (undisturbed alone occurrences).link iface := by
  induction occurrences generalizing daemon alone with
  | nil => exact same
  | cons occurrence rest ih =>
      rw [machine.after_cons]
      have readyNext := ready_step daemon occurrence ready
      cases occurrence with
      | autoconfigure target net =>
          exact ih readyNext (Host.link_autoconfigure_congr same target net)
      | run name now setAt move =>
          apply ih readyNext
          rw [← same]
          exact (ready name).link_kept (foreign name) now setAt move

/-- A link that is no mac-vlan of the daemon is after every run what it would be if the
daemon had not run, when nothing was stacked on its mac-vlans at first. -/
theorem foreign_links_undisturbed (fromStr : String → Option IpNet) (conf : Name → Config)
    (parents : ∀ name, Foreign conf (conf name).interfaceName) {host : Host}
    (layered : host.Layered fun iface => ¬ Foreign conf iface)
    (occurrences : List (Occurrence Name)) {iface : String} (foreign : Foreign conf iface) :
    (cascading.after (start fromStr conf host) occurrences).host.link iface =
      (undisturbed host occurrences).link iface := by
  have ready := @start_ready Name fromStr conf host
  have run := cascading_run parents ready layered occurrences
  rw [show cascading.after (start fromStr conf host) occurrences =
    machine.after (start fromStr conf host) occurrences from congrArg Prod.fst run]
  exact link_undisturbed ready foreign rfl occurrences

end Daemon

namespace Sample

def linkLocal : Ipv6Net where
  addr := 0xfe800000000000000000000000000001
  prefixLen := ⟨64, by decide⟩

/-- One v2 instance starts, and the kernel gives its parent an address meanwhile. -/
def startsAlone : List (Occurrence Unit) :=
  List.replicate 2 (.run () 0 0 .advance) ++ [.autoconfigure "eth0" linkLocal] ++
    List.replicate 2 (.run () 0 0 .advance)

end Sample

theorem Sample.host_layered (own : String → Prop) (foreign : ¬ own "eth0") :
    Sample.host.Layered own := by
  have single (name : String) (link : Link) (found : Sample.host.link name = some link) :
      name = "eth0" ∧ link.index = 2 ∧ link.parentIndex = none := by
    have entry := AList.mem_lookup_iff.mp found
    cases List.mem_singleton.mp entry
    exact ⟨rfl, rfl, rfl⟩
  constructor
  · intro name link found
    rw [(single name link found).2.1]
    decide
  · intro name link found below hangs
    rw [(single name link found).2.2] at hangs
    contradiction
  · intro name link named found
    rw [(single name link found).1] at named
    exact absurd named foreign
  · intro name link named found
    rw [(single name link found).1] at named
    exact absurd named foreign

namespace Daemon

theorem parent_link_undisturbed :
    (cascading.after (start Sample.parseNet (fun _ : Unit => Sample.config .v2 255) Sample.host)
      Sample.startsAlone).host.link "eth0" =
        (undisturbed Sample.host Sample.startsAlone).link "eth0" := by
  have foreign : Foreign (fun _ : Unit => Sample.config .v2 255) "eth0" := by
    intro _ family
    change "eth0" ≠ macVlanName "eth0" 51 family
    cases family <;> decide +kernel
  exact foreign_links_undisturbed Sample.parseNet (fun _ : Unit => Sample.config .v2 255)
    (fun _ => foreign) (Sample.host_layered _ (not_not.mpr foreign)) Sample.startsAlone foreign

end Daemon

end Failover
