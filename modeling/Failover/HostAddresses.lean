import Failover.AddressEdits
import Failover.Attachment

/-!
# The addresses on a shared host

An instance whose VRID no other instance of the host uses, once started, keeps on its
mac-vlans, of its configured addresses, all while it is Master and none otherwise,
whatever an earlier run left there.
-/

namespace Failover

open Library VirtualRouter

set_option autoImplicit false

namespace VirtualRouter

/-- The mac-vlans of the router hold its configured addresses while it is Master, and
none of them otherwise. -/
def ShownBy (vrouter : VirtualRouter) (host : Host) : Prop :=
  ∀ family iface, vrouter.macVlan family = some iface → ∀ net ∈ vrouter.nets family,
    (host.Holds iface net ↔ vrouter.fsm.state = .master)

variable {vrouter next : VirtualRouter} {input : Input} {effects : List Effect}
  {panicked : Bool} {host : Host} {now setAt : Instant}

theorem shown_added (linked : vrouter.LinkedOn host) :
    ∀ family iface, vrouter.macVlan family = some iface → ∀ net ∈ vrouter.nets family,
      (host.performAll vrouter.addVirtualAddresses).Holds iface net := by
  intro family iface side net configured
  apply Host.holds_perform_all_added (linked family iface side)
  · intro member
    obtain ⟨other, touched, _, same⟩ := virtual_address_of_mem member
    contradiction
  · exact ⟨_, mem_virtual_addresses _ side, rfl, configured⟩
  · exact fun effect member => added_strips_nothing member iface

theorem shown_deleted {rest : List Effect}
    (unadded : ∀ effect ∈ rest, ∀ name net, ¬ effect.Adds name net) :
    ∀ family iface, vrouter.macVlan family = some iface → ∀ net ∈ vrouter.nets family,
      ¬ (host.performAll (vrouter.deleteVirtualAddresses ++ rest)).Holds iface net := by
  intro family iface side net configured
  apply Host.not_holds_perform_all
  · exact .inr ⟨_, List.mem_append_left rest (mem_virtual_addresses _ side), rfl, configured⟩
  · intro effect member
    rcases List.mem_append.mp member with removal | later
    · exact deleted_adds_nothing removal iface net
    · exact unadded effect later iface net

theorem perform_all_advertisement (host : Host) :
    host.performAll vrouter.sendAdvertisement = host :=
  host.perform_all_sent fun effect member => .inl (send_advertisement_effects effect member)

theorem shown_after_deletions (shown : vrouter.ShownBy host) (idle : vrouter.fsm.state ≠ .master)
    {fsm : VirtualRouterMachine} (stays : fsm.state ≠ .master) :
    (vrouter.withFsm fsm).ShownBy (host.performAll vrouter.deleteMacVlans) := by
  intro family iface side net configured
  apply iff_of_false _ stays
  apply Host.not_holds_perform_all
  · exact .inl fun held => idle ((shown family iface side net configured).mp held)
  · exact fun effect member => (deletion_edits_nothing member iface).2 net

theorem shown_same_state {fsm : VirtualRouterMachine} (same : fsm.state = vrouter.fsm.state)
    (shown : vrouter.ShownBy host) : (vrouter.withFsm fsm).ShownBy host := by
  intro family iface side net configured
  rw [with_fsm_fsm, same]
  exact shown family iface side net configured

theorem shown_taken_over (linked : vrouter.LinkedOn host) (env : Env) (mac : MacAddr)
    {fsm : VirtualRouterMachine} (master : fsm.state = .master) :
    (vrouter.withFsm fsm).ShownBy (host.performAll (vrouter.sendAdvertisement ++
      vrouter.announceOwnership env mac ++ vrouter.addVirtualAddresses)) := by
  have announced : host.performAll (vrouter.announceOwnership env mac) = host :=
    host.perform_all_sent fun effect member =>
      .inr (announce_ownership_neighbor env vrouter mac effect member)
  rw [Host.perform_all_append, Host.perform_all_append, perform_all_advertisement, announced]
  intro family iface side net configured
  exact iff_of_true (shown_added linked family iface side net configured) master

/-- Mac-vlans that show the state of the router still do after a step of its tasks that
moves it for one family at most. -/
theorem served_shown
    (transition : Transition (host.env now setAt) vrouter input next effects panicked)
    (task : input ≠ .notify .startup)
    (single : vrouter.MovesOneFamily (host.env now setAt) input)
    (linked : vrouter.fsm.state ≠ .init → vrouter.LinkedOn host) (shown : vrouter.ShownBy host) :
    next.ShownBy (host.performAll effects) := by
  cases transition with
  | silent => exact shown
  | neighbor _ replies =>
      rw [host.perform_all_sent fun effect member => .inr (replies effect member)]
      exact shown
  | panics =>
      rw [perform_all_advertisement]
      exact shown
  | takesOver fires takesOver =>
      rcases takesOver with ⟨rfl, _⟩ | ⟨_, state⟩
      · cases fires
        exact absurd rfl task
      · exact shown_taken_over (linked (by simp [state])) _ _ rfl
  | starts fires =>
      cases fires
      exact absurd rfl task
  | stopsInit fires link state =>
      rw [← with_fsm_self vrouter]
      exact shown_after_deletions shown (by simp [state]) (by simp [state])
  | stopsBackup fires link state =>
      exact shown_after_deletions shown (by simp [state]) (by simp [initFsm])
  | stopsMaster fires link state =>
      rw [List.append_assoc, Host.perform_all_append, perform_all_advertisement]
      intro family iface side net configured
      apply iff_of_false _ (by simp [initFsm])
      exact shown_deleted (fun effect member name net => (deletion_edits_nothing member name).2 net)
        family iface side net configured
  | advertises =>
      rw [perform_all_advertisement]
      exact shown_same_state rfl shown
  | answers =>
      rw [perform_all_advertisement]
      exact shown_same_state rfl shown
  | hearsLeaving => exact shown_same_state rfl shown
  | defers => exact shown_same_state rfl shown
  | preempts hears link state positive preempt lower =>
      rename_i packet touched
      have others := single packet hears ⟨positive, .inl ⟨state, preempt, lower⟩⟩
      intro family iface side net configured
      refine iff_of_true ?_ rfl
      by_cases same : family = packet.addresses.family
      · subst same
        have side' : vrouter.macVlan packet.addresses.family = some iface := side
        obtain rfl := Option.some.inj (side'.symm.trans link)
        have adds : (Effect.virtualAddressAction .add (vrouter.nets packet.addresses.family)
            iface).Adds iface net := ⟨rfl, configured⟩
        exact Host.holds_perform_add (linked (by simp [state]) _ _ link) adds
      · have configured' : net ∈ vrouter.nets family := configured
        rw [others family same] at configured'
        contradiction
  | yields event hears link state positive superior =>
      rename_i packet touched
      have others := single packet hears ⟨positive, .inr ⟨state, superior⟩⟩
      intro family iface side net configured
      refine iff_of_false ?_ (by simp [backupFsm])
      by_cases same : family = packet.addresses.family
      · subst same
        have side' : vrouter.macVlan packet.addresses.family = some iface := side
        obtain rfl := Option.some.inj (side'.symm.trans link)
        have removes : (Effect.virtualAddressAction .delete (vrouter.nets packet.addresses.family)
            iface).Removes iface net := ⟨rfl, configured⟩
        exact Host.not_holds_perform (.inr removes) id
      · have configured' : net ∈ vrouter.nets family := configured
        rw [others family same] at configured'
        contradiction

theorem started_shown
    (transition : Transition (host.env now setAt) vrouter (.notify .startup) next effects panicked)
    (starts : vrouter.fsm.state = .init) (leaves : next.fsm.state ≠ .init)
    (linked : vrouter.LinkedOn host) : next.ShownBy (host.performAll effects) := by
  cases transition with
  | takesOver => exact shown_taken_over linked _ _ rfl
  | starts =>
      intro family iface side net configured
      apply iff_of_false _ (by simp [backupFsm])
      have removed : ¬ (host.performAll (vrouter.deleteVirtualAddresses ++ [])).Holds iface net :=
        shown_deleted (by simp) family iface side net configured
      rwa [List.append_nil] at removed
  | hearsLeaving hears => contradiction
  | defers hears => contradiction
  | preempts hears => contradiction
  | answers hears => contradiction
  | yields event hears => contradiction
  | stopsBackup fires => cases fires
  | stopsMaster fires => cases fires
  | _ => exact absurd starts leaves

theorem moves_one_family_of_v2 {env : Env} (noV6Side : vrouter.macVlan .v6 = none)
    (v4Only : vrouter.nets .v6 = []) : vrouter.MovesOneFamily env input := by
  intro packet hears _ family other
  cases family with
  | v6 => exact v4Only
  | v4 =>
      have linked : (vrouter.macVlan packet.addresses.family).isSome = true := by
        cases input with
        | vrrpV4 ipPacket => exact (accept_decoded (heard_v4_iff.mp hears).2).2.2
        | vrrpV6 payload srcIp => exact (accept_decoded (heard_v6_iff.mp hears).2).2.2
        | _ => contradiction
      cases side : packet.addresses.family with
      | v4 => exact absurd side.symm other
      | v6 =>
          rw [side, noV6Side] at linked
          contradiction

end VirtualRouter

namespace Session

variable {fromStr : String → Option IpNet} {conf : Config} {host next : Host}
  {session : Session}

/-- A started call shows its state on its mac-vlans. -/
def Settled (host : Host) (session : Session) : Prop :=
  session.phase.serves = true → session.inst.vrouter.ShownBy host

theorem Ready.nets_v6 (ready : Ready fromStr conf host session)
    (serves : session.phase.serves = true) {family : AddressFamily} {net : Ipv6Net}
    (configured : .v6 net ∈ session.inst.vrouter.nets family) :
    net ∈ (configToVr fromStr conf).ipv6Addresses := by
  obtain ⟨parent, primaryIp, _, runs⟩ := ready.prepares (.inr serves)
  obtain ⟨fsm, config⟩ := runs.config
  rw [config] at configured
  cases family with
  | v4 => simp [nets, strIpv4Addresses] at configured
  | v6 =>
      obtain ⟨listed, member, same⟩ := List.mem_map.mp configured
      cases same
      exact member

theorem Settled.congr (settled : session.Settled host) (ready : Ready fromStr conf host session)
    (holds : session.phase.serves = true → ∀ family, ∀ net ∈ session.inst.vrouter.nets family,
      (next.Holds (macVlanName conf.interfaceName conf.vrid family) net ↔
        host.Holds (macVlanName conf.interfaceName conf.vrid family) net)) :
    session.Settled next := by
  intro serves family iface side net configured
  have same := holds serves family net configured
  rw [← ready.mac_vlan serves side] at same
  rw [same]
  exact settled serves family iface side net configured

theorem Ready.settled_step (ready : Ready fromStr conf host session)
    (attached : session.Attached conf host) (settled : session.Settled host)
    (now setAt : Instant) (move : Move) (single : ∀ input, session.brings move = some input →
      session.inst.vrouter.MovesOneFamily (host.env now setAt) input) :
    (session.step host now setAt move).2.1.Settled (session.step host now setAt move).1 := by
  have course := session.step_course host now setAt move
  generalize (session.step host now setAt move).1 = next at course ⊢
  generalize (session.step host now setAt move).2.1 = after at course ⊢
  have transition := Instance.step_transition ready.sound (host.env now setAt)
  cases course with
  | idle => exact settled
  | startup phase =>
      simp only [Attached, phase] at attached
      obtain ⟨state, created⟩ := attached
      intro serves
      split_ifs at serves with succeeds
      · have leaves : (session.inst.step (host.env now setAt) (.notify .startup)).1.vrouter.fsm.state
            ≠ .init := by
          have left := startup_leaves_init state succeeds
          simpa only [Instance.step, ready.sound, Bool.false_eq_true, if_false,
            VirtualRouter.handle] using left
        exact started_shown (transition _) state leaves (ready.linked_at_startup phase created)
      · contradiction
  | serves timerNext phase task =>
      rename_i input timer leaving
      have serving : session.phase.serves = true := by
        rw [phase]
        rfl
      intro _
      exact served_shown (transition input) (Input.not_notify_of_task task .startup)
        (single input (brings_served phase (.inr task))) (attached.linked serving)
        (settled serving)
  | stops phase =>
      have serving : session.phase.serves = true := by
        rw [phase]
        rfl
      intro _
      exact served_shown (transition _) (by simp)
        (single (.notify .shutdown) (brings_served phase (.inl ⟨rfl, rfl⟩)))
        (attached.linked serving) (settled serving)
  | checkV4 phase =>
      intro serves
      split_ifs at serves <;> contradiction
  | _ =>
      intro serves
      contradiction

end Session

theorem Host.holds_autoconfigure {host : Host} {target iface : String} {added : Ipv6Net}
    {net : IpNet} (other : net ≠ .v6 added) :
    (host.autoconfigure target added).Holds iface net ↔ host.Holds iface net := by
  have unadded : ¬ (Effect.virtualAddressAction .add [.v6 added] target).Adds iface net :=
    fun adds => other (List.mem_singleton.mp adds.2)
  have stays : net.isLinkLocal = false ∨
      Effect.virtualAddressAction .add [.v6 added] target ≠ .deleteMacVlan iface :=
    .inr (by simp)
  constructor
  · intro held
    by_contra absent
    exact Host.not_holds_perform (.inl absent) unadded held
  · exact fun held => Host.holds_perform stays held id

namespace Daemon

variable {Name : Type*} [DecidableEq Name] {fromStr : String → Option IpNet} {conf : Name → Config}

/-- The packets that the instance handles move it for one family at most, and the kernel
chooses none of its addresses for a link. -/
def Single (fromStr : String → Option IpNet) (conf : Name → Config) (name : Name)
    (daemon : Daemon Name) : Occurrence Name → Prop
  | .run mover now setAt move => mover = name → ∀ input,
      (daemon.sessions name).brings move = some input →
        (daemon.sessions name).inst.vrouter.MovesOneFamily (daemon.host.env now setAt) input
  | .autoconfigure _ net => net ∉ (configToVr fromStr (conf name)).ipv6Addresses

theorem settled_step {name : Name}
    (alone : ∀ other, other ≠ name → (conf other).vrid ≠ (conf name).vrid)
    (daemon : Daemon Name) (occurrence : Occurrence Name)
    (holds : (Ready fromStr conf daemon ∧
      (daemon.sessions name).Attached (conf name) daemon.host) ∧
        (daemon.sessions name).Settled daemon.host)
    (single : Single fromStr conf name daemon occurrence) :
    (Ready fromStr conf (machine.step daemon occurrence).1 ∧
      ((machine.step daemon occurrence).1.sessions name).Attached (conf name)
        (machine.step daemon occurrence).1.host) ∧
      ((machine.step daemon occurrence).1.sessions name).Settled
        (machine.step daemon occurrence).1.host := by
  refine ⟨attached_step alone daemon occurrence holds.1, ?_⟩
  obtain ⟨⟨ready, attached⟩, settled⟩ := holds
  cases occurrence with
  | autoconfigure target net =>
      apply settled.congr (ready name)
      intro serves family configured member
      apply Host.holds_autoconfigure
      intro chosen
      rw [chosen] at member
      exact single ((ready name).nets_v6 serves member)
  | run mover now setAt move =>
      by_cases same : mover = name
      · subst same
        simp only [machine, Function.update_self]
        exact (ready mover).settled_step attached settled now setAt move (single rfl)
      · simp only [machine, Function.update_of_ne (Ne.symm same)]
        apply settled.congr (ready name)
        intro _ family net _
        rw [Host.Holds, Host.Holds, link_kept_by_others alone same ready now setAt move]

theorem single_of_v2 {name : Name} (version : (conf name).version = .v2)
    (v4Only : (configToVr fromStr (conf name)).ipv6Addresses = []) (host : Host)
    (occurrences : List (Occurrence Name)) :
    machine.AllSteps (Single fromStr conf name) (start fromStr conf host) occurrences := by
  apply machine.all_steps_of_invariant (Ready fromStr conf) ready_step _ (start_ready host)
  intro daemon occurrence ready
  cases occurrence with
  | autoconfigure target net =>
      simp only [Single]
      rw [v4Only]
      exact List.not_mem_nil
  | run mover now setAt move =>
      intro _ input brought
      obtain ⟨parent, primaryIp, _, runs⟩ :=
        (ready name).prepares (Session.brings_running brought)
      obtain ⟨fsm, config⟩ := runs.config
      apply moves_one_family_of_v2
      · rw [config]
        apply Option.not_isSome_iff_eq_none.mp
        intro present
        have dual := (config_to_vr_v6_side (conf name) parent primaryIp).mp present
        rw [version] at dual
        contradiction
      · rw [config]
        change (configToVr fromStr (conf name)).ipv6Addresses.map IpNet.v6 = []
        rw [v4Only]
        rfl

theorem settled_after {name : Name}
    (alone : ∀ other, other ≠ name → (conf other).vrid ≠ (conf name).vrid) (host : Host)
    {occurrences : List (Occurrence Name)}
    (single : machine.AllSteps (Single fromStr conf name) (start fromStr conf host) occurrences) :
    let daemon := machine.after (start fromStr conf host) occurrences
    (Ready fromStr conf daemon ∧ (daemon.sessions name).Attached (conf name) daemon.host) ∧
      (daemon.sessions name).Settled daemon.host := by
  apply machine.guarded_invariant (fun daemon => (Ready fromStr conf daemon ∧
    (daemon.sessions name).Attached (conf name) daemon.host) ∧
      (daemon.sessions name).Settled daemon.host) (settled_step alone) _ single
  exact ⟨⟨start_ready host, start_attached host name⟩, fun serves => nomatch serves⟩

theorem single_of_valid {configs : List Config}
    (accepted : validateConfigs fromStr configs = .ok ()) {name : Name}
    (member : conf name ∈ configs) (host : Host) {occurrences : List (Occurrence Name)}
    (single : (conf name).version = .v3 →
      machine.AllSteps (Single fromStr conf name) (start fromStr conf host) occurrences) :
    machine.AllSteps (Single fromStr conf name) (start fromStr conf host) occurrences := by
  cases version : (conf name).version with
  | v2 =>
      have valid := valid_config_addresses accepted _ member
      exact single_of_v2 version (config_to_vr_v4_only version valid) host occurrences
  | v3 => exact single version

/-- On a host that starts with whatever an earlier run left behind, an instance whose
VRID is used once shows its state in its addresses from `Startup` on. A v3 instance has
to be moved by packets of its only family. -/
theorem started_instance_shown {configs : List Config}
    (accepted : validateConfigs fromStr configs = .ok ()) {name : Name}
    (member : conf name ∈ configs)
    (alone : ∀ other, other ≠ name → (conf other).vrid ≠ (conf name).vrid) (host : Host)
    {occurrences : List (Occurrence Name)}
    (single : (conf name).version = .v3 →
      machine.AllSteps (Single fromStr conf name) (start fromStr conf host) occurrences) :
    let daemon := machine.after (start fromStr conf host) occurrences
    let session := daemon.sessions name
    session.phase.serves = true → session.inst.vrouter.ShownBy daemon.host ∧
      (session.inst.vrouter.fsm.state ≠ .init → session.inst.vrouter.LinkedOn daemon.host) := by
  intro daemon session serves
  have guarded := single_of_valid accepted member host single
  obtain ⟨⟨_, attached⟩, settled⟩ := settled_after alone host guarded
  exact ⟨settled serves, attached.linked serves⟩

end Daemon

namespace Sample

/-- A host whose last run ended without taking down its mac-vlan. -/
def crashedHost : Host :=
  host.addLink "fover4-51-9724"
    { index := 3
      isMacVlan := true
      mac := some [0x00, 0x00, 0x5e, 0x00, 0x01, 51]
      parentIndex := some 2
      ips := [virtualIpv4] }

end Sample

namespace Daemon

/-- A Backup takes the address off that a crash has left behind. -/
theorem crashed_instance_starts :
    let daemon := machine.after
      (start Sample.parseNet (fun _ : Unit => Sample.config .v2 100) Sample.crashedHost)
      Sample.startsAlone
    (daemon.sessions ()).inst.vrouter.ShownBy daemon.host :=
  (@started_instance_shown Unit _ Sample.parseNet (fun _ : Unit => Sample.config .v2 100)
    [Sample.config .v2 100] rfl () List.mem_cons_self (fun _ other => absurd rfl other)
    Sample.crashedHost Sample.startsAlone (fun version => nomatch version) (by decide +kernel)).1

end Daemon

end Failover
