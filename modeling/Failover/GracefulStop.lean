import Failover.FailedRun
import Failover.HostAddresses

/-!
# What a graceful stop leaves

`Shutdown` takes the addresses off the mac-vlans and then deletes those that hold
nothing but automatic addresses. An instance whose VRID no other instance of the host
uses puts nothing there but its configured addresses, so nothing of it remains.
-/

namespace Failover

open Library VirtualRouter

set_option autoImplicit false

namespace Host

variable {host : Host} {name : String} {nets : List IpNet}

/-- The link of this name, if there is one, holds nothing but these addresses and
automatic ones. -/
def Tidy (host : Host) (name : String) (nets : List IpNet) : Prop :=
  ∀ net, host.Holds name net → net.isLinkLocal = true ∨ net ∈ nets

theorem Tidy.congr {next : Host} (tidy : host.Tidy name nets)
    (same : ∀ net, next.Holds name net ↔ host.Holds name net) : next.Tidy name nets :=
  fun net holds => tidy net ((same net).mp holds)

theorem Tidy.perform_all (tidy : host.Tidy name nets) {effects : List Effect}
    (adds : ∀ effect ∈ effects, ∀ net, effect.Adds name net → net ∈ nets) :
    (host.performAll effects).Tidy name nets := by
  intro net holds
  by_contra stray
  refine not_holds_perform_all (.inl fun before => stray (tidy net before)) ?_ holds
  exact fun effect member added => stray (.inr (adds effect member net added))

theorem Tidy.autoconfigure (tidy : host.Tidy name nets) {iface : String} {net : Ipv6Net}
    (automatic : iface = name → isUnicastLinkLocal net.addr = true) :
    (host.autoconfigure iface net).Tidy name nets := by
  intro held holds
  by_cases same : held = .v6 net ∧ iface = name
  · rw [same.1]
    exact .inl (automatic same.2)
  · apply tidy held
    by_contra absent
    have unadded : ¬ (Effect.virtualAddressAction .add [.v6 net] iface).Adds name held :=
      fun adds => same ⟨List.mem_singleton.mp adds.2, adds.1⟩
    exact not_holds_perform (.inl absent) unadded holds

theorem not_has_perform_all {effects : List Effect} (gone : ¬ host.Has name) :
    ¬ (host.performAll effects).Has name := by
  induction effects generalizing host with
  | nil => exact gone
  | cons effect rest ih =>
      apply ih
      unfold Has at gone ⊢
      rw [link_perform]
      cases present : host.link name with
      | none => simp
      | some link =>
          rw [present] at gone
          exact absurd rfl gone

theorem not_has_after_deletion (blank : host.Tidy name []) {deleted : List String}
    (member : name ∈ deleted) :
    ¬ (host.performAll (deleted.map Effect.deleteMacVlan)).Has name := by
  induction deleted generalizing host with
  | nil => contradiction
  | cons first rest ih =>
      rw [List.map_cons, perform_all_cons]
      by_cases same : first = name
      · subst same
        apply not_has_perform_all
        unfold Has
        rw [link_perform]
        cases present : host.link first with
        | none => simp
        | some link =>
            have unused : link.remainingAddressCount = 0 := by
              apply link.remaining_address_count_zero.mpr
              intro net held
              rcases blank net ⟨link, present, held⟩ with automatic | listed
              · exact automatic
              · contradiction
            simp [Link.after, unused]
      · apply ih
        · intro net holds
          by_contra stray
          refine not_holds_perform (.inl fun before => stray (blank net before)) ?_ holds
          exact id
        · rcases List.mem_cons.mp member with wrong | later
          · exact absurd wrong.symm same
          · exact later

end Host

namespace VirtualRouter

theorem delete_mac_vlans_eq (vrouter : VirtualRouter) :
    vrouter.deleteMacVlans =
      (vrouter.macVlanInterfaceV4 :: vrouter.macVlanInterfaceV6.toList).map .deleteMacVlan := by
  unfold deleteMacVlans
  cases vrouter.macVlanInterfaceV6 <;> rfl

/-- `Shutdown` deletes the mac-vlans of a router that alone has put addresses there. -/
theorem gone_after_shutdown {vrouter next : VirtualRouter} {effects : List Effect}
    {panicked : Bool} {host : Host} {now setAt : Instant}
    (transition : Transition (host.env now setAt) vrouter (.notify .shutdown) next effects panicked)
    (running : vrouter.fsm.state ≠ .init) (linked : vrouter.LinkedOn host)
    (shown : vrouter.ShownBy host) {family : AddressFamily} {iface : String}
    (side : vrouter.macVlan family = some iface)
    (tidy : host.Tidy iface (vrouter.nets family)) :
    ¬ (host.performAll effects).Has iface := by
  have member : iface ∈ vrouter.macVlanInterfaceV4 :: vrouter.macVlanInterfaceV6.toList := by
    cases family with
    | v4 =>
        simp only [macVlan, Option.some.injEq] at side
        rw [← side]
        exact List.mem_cons_self
    | v6 =>
        have present : vrouter.macVlanInterfaceV6 = some iface := side
        simp [present]
  obtain ⟨link, present⟩ := Option.isSome_iff_exists.mp (linked .v4 _ rfl)
  have found := host.get_interface_env now setAt vrouter.macVlanInterfaceV4
  rw [present] at found
  cases transition with
  | stopsBackup fires _ state =>
      rw [delete_mac_vlans_eq]
      refine Host.not_has_after_deletion ?_ member
      intro net holds
      rcases tidy net holds with automatic | configured
      · exact .inl automatic
      · have master := (shown family iface side net configured).mp holds
        rw [state] at master
        contradiction
  | stopsMaster fires _ state =>
      rw [List.append_assoc, Host.perform_all_append, perform_all_advertisement,
        Host.perform_all_append, delete_mac_vlans_eq]
      refine Host.not_has_after_deletion ?_ member
      intro net holds
      have removed := @shown_deleted vrouter host [] (by simp) family iface side
      rw [List.append_nil] at removed
      by_cases configured : net ∈ vrouter.nets family
      · exact absurd holds (removed net configured)
      · left
        by_contra stray
        refine Host.not_holds_perform_all (.inl fun before => ?_) ?_ holds
        · exact (tidy net before).elim stray configured
        · exact fun effect listed => deleted_adds_nothing listed iface net
  | silent why =>
      cases why with
      | unheard vrrp => exact vrrp.elim
      | stopped hears => contradiction
      | outranked hears => contradiction
      | noLink fires missing =>
          rw [found] at missing
          contradiction
      | ignored fires link ignores =>
          cases fires
          rcases ignores with ⟨wrong, _⟩ | ⟨wrong, _⟩ | wrong <;> contradiction
  | stopsInit fires link state => exact absurd state running
  | neighbor neighbor => exact neighbor.elim
  | panics fires takesOver =>
      cases fires
      rcases takesOver with ⟨wrong, _⟩ | ⟨wrong, _⟩ <;> contradiction
  | takesOver fires takesOver =>
      cases fires
      rcases takesOver with ⟨wrong, _⟩ | ⟨wrong, _⟩ <;> contradiction
  | starts fires => cases fires
  | hearsLeaving hears => contradiction
  | defers hears => contradiction
  | preempts hears => contradiction
  | answers hears => contradiction
  | yields event hears => contradiction

end VirtualRouter

theorem Config.mac_vlan_named {conf : Config} {family : AddressFamily} {name : String}
    (side : conf.macVlan family = some name) :
    name = macVlanName conf.interfaceName conf.vrid family := by
  cases family with
  | v4 => exact (Option.some.inj side).symm
  | v6 => cases version : conf.version <;> simp_all [macVlan]

namespace Session

variable {fromStr : String → Option IpNet} {conf : Config} {host next : Host}
  {session : Session} {now setAt : Instant}

/-- Until `Shutdown` its mac-vlans hold what it has put there, and after it they are
gone. -/
def Cleared (fromStr : String → Option IpNet) (conf : Config) (host : Host)
    (session : Session) : Prop :=
  match session.phase with
  | .serving _ true => ∀ family iface, conf.macVlan family = some iface → ¬ host.Has iface
  | .ended (.ok ()) => ∀ family iface, conf.macVlan family = some iface → ¬ host.Has iface
  | .ended _ => True
  | _ => ∀ family iface, conf.macVlan family = some iface →
      host.Tidy iface ((configToVr fromStr conf).nets family)

theorem Cleared.congr (cleared : session.Cleared fromStr conf host)
    (has : ∀ family iface, conf.macVlan family = some iface → (next.Has iface ↔ host.Has iface))
    (tidy : ∀ family iface, conf.macVlan family = some iface →
      host.Tidy iface ((configToVr fromStr conf).nets family) →
        next.Tidy iface ((configToVr fromStr conf).nets family)) :
    session.Cleared fromStr conf next := by
  unfold Cleared at cleared ⊢
  split
  · rename_i phase
    simp only [phase] at cleared
    exact fun family iface side => mt (has family iface side).mp (cleared family iface side)
  · rename_i phase
    simp only [phase] at cleared
    exact fun family iface side => mt (has family iface side).mp (cleared family iface side)
  · trivial
  · rename_i early ended other
    split at cleared
    · rename_i timer phase
      exact absurd phase (early timer)
    · rename_i phase
      exact absurd phase ended
    · rename_i result _ phase
      exact absurd phase (other result)
    · exact fun family iface side => tidy family iface side (cleared family iface side)

theorem advance_ended {after : Session} {effects : List Effect}
    (advanced : session.advance host now setAt = .ok (next, after, effects))
    (ended : after.phase = .ended (.ok ())) : session.phase = .ended (.ok ()) := by
  unfold advance at advanced
  cases phase : session.phase with
  | ended result =>
      simp only [phase] at advanced
      cases advanced
      rw [← phase]
      exact ended
  | startup =>
      simp only [phase] at advanced
      cases advanced
      simp only at ended
      split_ifs at ended
      simp at ended
  | lookup =>
      simp only [phase] at advanced
      obtain ⟨parent, _, rest⟩ := except_bind_ok advanced
      obtain ⟨primaryIp, _, result⟩ := except_bind_ok rest
      cases result
      contradiction
  | checkV4 parent =>
      simp only [phase] at advanced
      obtain ⟨interface, _, result⟩ := except_bind_ok advanced
      cases result
      simp only at ended
      split_ifs at ended
  | serving timer leaving =>
      simp only [phase] at advanced
      cases advanced
      rw [phase] at ended
      contradiction
  | _ =>
      simp only [phase] at advanced
      obtain ⟨made, _, result⟩ := except_bind_ok advanced
      cases result
      contradiction

theorem step_ended (session : Session) (host : Host) (now setAt : Instant) (move : Move)
    (ended : (session.step host now setAt move).2.1.phase = .ended (.ok ())) :
    session.phase = .ended (.ok ()) ∨ ∃ timer, session.phase = .serving timer true := by
  cases move with
  | advance =>
      simp only [step] at ended
      cases advanced : session.advance host now setAt with
      | error error => simp [advanced] at ended
      | ok result =>
          rw [advanced] at ended
          exact .inl (advance_ended advanced ended)
  | handle input =>
      simp only [step] at ended
      split at ended
      · rename_i timer leaving phase
        split_ifs at ended
        · contradiction
        · contradiction
        · rw [phase] at ended
          contradiction
      · exact .inl ended
  | finish =>
      simp only [step] at ended
      split at ended
      · rename_i timer phase
        exact .inr ⟨timer, phase⟩
      · exact .inl ended

theorem Ready.adds (ready : Ready fromStr conf host session)
    (runs : session.phase = .startup ∨ session.phase.serves = true) (now setAt : Instant)
    (input : Input) {family : AddressFamily} {iface : String}
    (side : conf.macVlan family = some iface) :
    ∀ effect ∈ (session.inst.step (host.env now setAt) input).2, ∀ net,
      effect.Adds iface net → net ∈ (configToVr fromStr conf).nets family := by
  intro effect member net added
  have stepped := Instance.step_within ready.sound ready.matched (ready.sees runs now setAt) input
  have within := (stepped.2.2 effect member).1
  have prepares := ready.prepares runs
  cases effect with
  | virtualAddressAction action addresses touched =>
      cases action with
      | add =>
          obtain ⟨rfl, listed⟩ := added
          obtain ⟨other, link, rfl⟩ := within
          obtain ⟨named, nets⟩ := prepares.mac_vlan other
          rw [named] at link
          obtain rfl := Config.mac_vlan_injective link side
          rw [← nets]
          exact listed
      | delete => exact added.elim
  | _ => exact added.elim

theorem Ready.cleared_step (ready : Ready fromStr conf host session)
    (attached : session.Attached conf host) (settled : session.Settled host)
    (cleared : session.Cleared fromStr conf host) (now setAt : Instant) (move : Move) :
    (session.step host now setAt move).2.1.Cleared fromStr conf
      (session.step host now setAt move).1 := by
  have course := session.step_course host now setAt move
  have ended := session.step_ended host now setAt move
  generalize (session.step host now setAt move).1 = next at course ⊢
  generalize (session.step host now setAt move).2.1 = after at course ended ⊢
  cases course with
  | idle => exact cleared
  | ends result =>
      unfold Cleared
      split
      · contradiction
      · rename_i finished
        rcases ended finished with phase | ⟨timer, phase⟩
        · simpa only [Cleared, phase] using cleared
        · simpa only [Cleared, phase] using cleared
      · trivial
      · rename_i other
        exact absurd rfl (other result)
  | lookup primaryIp phase found => simpa only [Cleared, phase] using cleared
  | createV4 phase created =>
      simp only [Cleared, phase] at cleared
      intro family iface side
      exact (cleared family iface side).congr (Host.create_mac_vlan_holds created iface).2
  | checkV4 phase =>
      simp only [Cleared, phase] at cleared
      split_ifs <;> exact cleared
  | createV6 phase created =>
      simp only [Cleared, phase] at cleared
      intro family iface side
      exact (cleared family iface side).congr (Host.create_mac_vlan_holds created iface).2
  | checkV6 phase => simpa only [Cleared, phase] using cleared
  | startup phase =>
      simp only [Cleared, phase] at cleared
      split_ifs
      · intro family iface side
        exact (cleared family iface side).perform_all (ready.adds (.inl phase) now setAt _ side)
      · trivial
  | serves timerNext phase task =>
      rename_i input timer leaving
      cases leaving with
      | true =>
          simp only [Cleared, phase] at cleared
          exact fun family iface side => Host.not_has_perform_all (cleared family iface side)
      | false =>
          simp only [Cleared, phase] at cleared
          intro family iface side
          have serves : session.phase.serves = true := by
            rw [phase]
            rfl
          exact (cleared family iface side).perform_all (ready.adds (.inr serves) now setAt _ side)
  | stops phase =>
      rename_i timer
      simp only [Cleared, phase] at cleared
      have serves : session.phase.serves = true := by
        rw [phase]
        rfl
      have running : session.inst.vrouter.fsm.state ≠ .init := by
        simp only [Attached, phase] at attached
        intro state
        have gone := attached.2.1.mpr state
        contradiction
      have prepares := ready.prepares (.inr serves)
      intro family iface side
      obtain ⟨named, nets⟩ := prepares.mac_vlan family
      apply gone_after_shutdown (Instance.step_transition ready.sound (host.env now setAt) _)
        running (attached.linked serves running) (settled serves) (named.trans side)
      rw [nets]
      exact cleared family iface side

end Session

namespace Daemon

variable {Name : Type*} [DecidableEq Name] {fromStr : String → Option IpNet} {conf : Name → Config}

/-- The kernel gives the mac-vlans of the instance no other than link-local addresses. -/
def Unadvertised (conf : Name → Config) (name : Name) : Occurrence Name → Prop
  | .run _ _ _ _ => True
  | .autoconfigure iface net => ∀ family, (conf name).macVlan family = some iface →
      isUnicastLinkLocal net.addr = true

theorem cleared_step {name : Name}
    (alone : ∀ other, other ≠ name → (conf other).vrid ≠ (conf name).vrid)
    (daemon : Daemon Name) {occurrence : Occurrence Name}
    (unadvertised : Unadvertised conf name occurrence)
    (holds : (Ready fromStr conf daemon ∧
      (daemon.sessions name).Attached (conf name) daemon.host) ∧
        (daemon.sessions name).Settled daemon.host)
    (cleared : (daemon.sessions name).Cleared fromStr (conf name) daemon.host) :
    ((machine.step daemon occurrence).1.sessions name).Cleared fromStr (conf name)
      (machine.step daemon occurrence).1.host := by
  obtain ⟨⟨ready, attached⟩, settled⟩ := holds
  cases occurrence with
  | autoconfigure target net =>
      apply cleared.congr
      · exact fun family iface _ => Host.has_autoconfigure daemon.host target iface net
      · intro family iface side tidy
        apply tidy.autoconfigure
        intro same
        subst same
        exact unadvertised family side
  | run mover now setAt move =>
      by_cases same : mover = name
      · subst same
        simp only [machine, Function.update_self]
        exact (ready mover).cleared_step attached settled cleared now setAt move
      · simp only [machine, Function.update_of_ne (Ne.symm same)]
        have kept {family : AddressFamily} {iface : String}
            (side : (conf name).macVlan family = some iface) :
            ((daemon.sessions mover).step daemon.host now setAt move).1.link iface =
              daemon.host.link iface := by
          rw [Config.mac_vlan_named side]
          exact link_kept_by_others alone same ready now setAt move family
        apply cleared.congr
        · exact fun family iface side => by rw [Host.Has, Host.Has, kept side]
        · intro family iface side tidy
          apply tidy.congr
          exact fun net => by rw [Host.Holds, Host.Holds, kept side]

/-- When `run` has returned after `Shutdown`, the mac-vlans of an instance whose VRID is
used once are gone, unless the host held others' addresses on them at the start or the
kernel gave them any that are not link-local. A v3 instance has to be moved by packets of
its only family. -/
theorem stopped_instance_leaves_nothing {configs : List Config}
    (accepted : validateConfigs fromStr configs = .ok ()) {name : Name}
    (member : conf name ∈ configs)
    (alone : ∀ other, other ≠ name → (conf other).vrid ≠ (conf name).vrid) {host : Host}
    (tidy : ∀ family iface, (conf name).macVlan family = some iface →
      host.Tidy iface ((configToVr fromStr (conf name)).nets family))
    {occurrences : List (Occurrence Name)}
    (unadvertised : ∀ occurrence ∈ occurrences, Unadvertised conf name occurrence)
    (single : (conf name).version = .v3 →
      machine.AllSteps (Single fromStr conf name) (start fromStr conf host) occurrences) :
    let daemon := machine.after (start fromStr conf host) occurrences
    (daemon.sessions name).phase = .ended (.ok ()) →
      ∀ family iface, (conf name).macVlan family = some iface → ¬ daemon.host.Has iface := by
  intro daemon ended
  have guarded := machine.all_steps_and_inputs
    (single_of_valid accepted member host single) unadvertised
  have cleared : (daemon.sessions name).Cleared fromStr (conf name) daemon.host := by
    apply (machine.guarded_invariant (fun daemon => ((Ready fromStr conf daemon ∧
      (daemon.sessions name).Attached (conf name) daemon.host) ∧
        (daemon.sessions name).Settled daemon.host) ∧
          (daemon.sessions name).Cleared fromStr (conf name) daemon.host) _ _ guarded).2
    · intro daemon occurrence holds met
      exact ⟨settled_step alone daemon occurrence holds.1 met.1,
        cleared_step alone daemon met.2 holds.1 holds.2⟩
    · exact ⟨⟨⟨start_ready host, start_attached host name⟩, fun serves => nomatch serves⟩, tidy⟩
  unfold Session.Cleared at cleared
  rw [ended] at cleared
  exact cleared

end Daemon

namespace Sample

/-- The instance starts, its mac-vlan gets a link-local address, it is told to stop, and
returns. -/
def startsAndStops : List (Occurrence Unit) :=
  startsAlone ++
    [.autoconfigure "fover4-51-9724" linkLocal, .run () 1 1 (.handle (.notify .shutdown)),
      .run () 1 1 .finish]

theorem starts_unadvertised (occurrence : Occurrence Unit) (member : occurrence ∈ startsAndStops) :
    Daemon.Unadvertised (fun _ : Unit => config .v2 100) () occurrence := by
  rcases List.mem_append.mp member with starting | stopping
  · cases occurrence with
    | run mover now setAt move => trivial
    | autoconfigure iface net =>
        simp only [startsAlone, List.mem_append, List.mem_replicate, reduceCtorEq, and_false,
          List.mem_singleton, Occurrence.autoconfigure.injEq, false_or, or_false] at starting
        rw [starting.2]
        exact fun _ _ => by decide +kernel
  · simp only [List.mem_cons, List.not_mem_nil, or_false] at stopping
    rcases stopping with rfl | rfl | rfl
    · exact fun _ _ => by decide +kernel
    · trivial
    · trivial

theorem crashed_host_tidy (family : AddressFamily) (iface : String)
    (side : (config .v2 100).macVlan family = some iface) :
    crashedHost.Tidy iface ((configToVr parseNet (config .v2 100)).nets family) := by
  cases family with
  | v6 => contradiction
  | v4 =>
      have present : crashedHost.link (macVlanName "eth0" 51 .v4) = some
          { index := 3
            isMacVlan := true
            mac := some [0x00, 0x00, 0x5e, 0x00, 0x01, 51]
            parentIndex := some 2
            ips := [virtualIpv4] } := by
        decide +kernel
      intro net holds
      obtain ⟨link, found, member⟩ := holds
      obtain rfl : macVlanName "eth0" 51 .v4 = iface := Option.some.inj side
      rw [present, Option.some.injEq] at found
      subst found
      rw [List.mem_singleton.mp member]
      decide +kernel

end Sample

namespace Daemon

/-- A host that a crash has left with the mac-vlan is clean after one run to the end. -/
theorem crashed_instance_cleared :
    ¬ (machine.after
      (start Sample.parseNet (fun _ : Unit => Sample.config .v2 100) Sample.crashedHost)
      Sample.startsAndStops).host.Has "fover4-51-9724" :=
  @stopped_instance_leaves_nothing Unit _ Sample.parseNet (fun _ : Unit => Sample.config .v2 100)
    [Sample.config .v2 100] rfl () List.mem_cons_self (fun _ other => absurd rfl other)
    Sample.crashedHost Sample.crashed_host_tidy Sample.startsAndStops Sample.starts_unadvertised
    (fun version => nomatch version) (by decide +kernel) .v4 "fover4-51-9724" (by decide +kernel)

end Daemon

end Failover
