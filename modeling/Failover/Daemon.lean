import Failover.Calls
import Failover.Teardown

/-!
# All the instances of a host

`main` starts one call of `run` for each configuration, and they share the links of
the host. Whatever they do and in whatever order, the mac-vlans of an instance have
its virtual MAC addresses from the time it has looked them up.
-/

namespace Failover

open Library VirtualRouter

set_option autoImplicit false

/-- The host and the calls of `run`, one for each configuration. -/
structure Daemon (Name : Type*) where
  host : Host
  sessions : Name → Session

/-- A step of one instance, or an automatic address that the kernel gives a link. -/
inductive Occurrence (Name : Type*) where
  | run (name : Name) (now setAt : Instant) (move : Move)
  | autoconfigure (iface : String) (net : Ipv6Net)
  deriving DecidableEq

/-- The mac-vlan of this name, if there is one, has the virtual MAC address. -/
def Host.Genuine (host : Host) (parent : String) (vrid : UInt8) (family : AddressFamily) : Prop :=
  ∀ link, host.link (macVlanName parent vrid family) = some link →
    link.mac = some (family.virtualMac vrid)

def Session.Linked (session : Session) (family : AddressFamily) : Prop :=
  match session.phase, family with
  | .checkV4 _, .v4 | .createV6 _, .v4 | .checkV6 _, _ => True
  | .startup, .v4 | .serving _ _, .v4 => True
  | .startup, .v6 | .serving _ _, .v6 => session.inst.vrouter.version = .v3
  | _, _ => False

namespace Daemon

variable {Name : Type*} [DecidableEq Name]

def machine : Machine (Daemon Name) (Occurrence Name) Effect where
  step daemon
    | .run name now setAt move =>
        let (host, session, effects) := (daemon.sessions name).step daemon.host now setAt move
        ({ host, sessions := Function.update daemon.sessions name session }, effects)
    | .autoconfigure iface net =>
        ({ daemon with host := daemon.host.autoconfigure iface net }, [])

omit [DecidableEq Name] in
def start (fromStr : String → Option IpNet) (conf : Name → Config) (host : Host) :
    Daemon Name where
  host
  sessions name := .new (configToVr fromStr (conf name))

end Daemon

namespace Host

variable {host next : Host} {parent : String} {vrid : UInt8} {family : AddressFamily}

theorem Genuine.perform_all (genuine : host.Genuine parent vrid family) (effects : List Effect) :
    (host.performAll effects).Genuine parent vrid family := by
  intro link present
  obtain ⟨before, found, remains⟩ := remains_perform_all present
  rw [remains]
  exact genuine before found

theorem Genuine.autoconfigure (genuine : host.Genuine parent vrid family) (iface : String)
    (net : Ipv6Net) : (host.autoconfigure iface net).Genuine parent vrid family :=
  genuine.perform_all [.virtualAddressAction .add [.v6 net] iface]

theorem create_mac_vlan_genuine {name : String}
    (created : host.createMacVlan parent vrid family = .ok (next, name)) :
    next.Genuine parent vrid family ∧
      ∀ other, other ≠ macVlanName parent vrid family → next.link other = host.link other := by
  unfold createMacVlan at created
  cases above : host.link parent with
  | none => simp [above] at created
  | some parentLink =>
      simp only [above] at created
      cases existing : host.link (macVlanName parent vrid family) with
      | none =>
          simp only [existing, Except.ok.injEq, Prod.mk.injEq] at created
          obtain ⟨rfl, _⟩ := created
          constructor
          · intro link present
            rw [link_add_link, if_pos rfl, Option.some.injEq] at present
            rw [← present]
          · intro other different
            rw [link_add_link, if_neg different]
      | some link =>
          simp only [existing] at created
          split_ifs at created with isMacVlan mac parentIndex
          simp only [Except.ok.injEq, Prod.mk.injEq] at created
          obtain ⟨rfl, _⟩ := created
          refine ⟨?_, fun _ _ => rfl⟩
          intro shown present
          rw [existing, Option.some.injEq] at present
          rw [← present]
          exact not_not.mp mac

/-- Mac-vlans of one name have one virtual MAC address, also when the hashes of their
parents' names collide. -/
theorem Genuine.created (genuine : host.Genuine parent vrid family) {parentIfname name : String}
    {otherVrid : UInt8} {otherFamily : AddressFamily}
    (created : host.createMacVlan parentIfname otherVrid otherFamily = .ok (next, name)) :
    next.Genuine parent vrid family := by
  obtain ⟨added, unchanged⟩ := create_mac_vlan_genuine created
  intro link present
  by_cases same : macVlanName parent vrid family = macVlanName parentIfname otherVrid otherFamily
  · rw [mac_vlan_name_vrid same, mac_vlan_name_family same]
    exact added link (same ▸ present)
  · exact genuine link ((unchanged _ same).symm.trans present)

end Host

namespace Session

variable {host next : Host} {now setAt : Instant} {session after : Session} {move : Move}
  {fromStr : String → Option IpNet} {conf : Config}

theorem course_genuine (course : Course host now setAt session move next after) {parent : String}
    {vrid : UInt8} {family : AddressFamily} (genuine : host.Genuine parent vrid family) :
    next.Genuine parent vrid family := by
  cases course with
  | createV4 phase created => exact genuine.created created
  | createV6 phase created => exact genuine.created created
  | startup => exact genuine.perform_all _
  | serves => exact genuine.perform_all _
  | stops => exact genuine.perform_all _
  | _ => exact genuine

theorem prepares_linked {inst : Instance} (prepares : Prepares (configToVr fromStr conf) inst) :
    inst.vrouter.version = conf.version ∧ inst.vrouter.vrid = conf.vrid ∧
      ∀ family iface, inst.vrouter.macVlan family = some iface →
        iface = macVlanName conf.interfaceName conf.vrid family ∧
          (family = .v6 → conf.version = .v3) := by
  obtain ⟨parent, primaryIp, name, runs⟩ := prepares
  obtain ⟨fsm, config⟩ := runs.config
  have parentName : parent.name = conf.interfaceName := name
  rw [config]
  refine ⟨rfl, rfl, ?_⟩
  intro family iface side
  cases family with
  | v4 =>
      simp only [macVlan, Option.some.injEq] at side
      refine ⟨?_, by simp⟩
      rw [← side, ← parentName]
      rfl
  | v6 =>
      have present : ((configToVr fromStr conf).prepare parent primaryIp).macVlanInterfaceV6 =
          some iface := side
      have version := (config_to_vr_v6_side conf parent primaryIp).mp
        (Option.isSome_iff_exists.mpr ⟨iface, present⟩)
      refine ⟨?_, fun _ => version⟩
      have named : ((configToVr fromStr conf).prepare parent primaryIp).macVlanInterfaceV6 =
          some (macVlanName parent.name conf.vrid .v6) := by
        simp only [prepare, configToVr, VirtualRouter.new, version]
      rw [present, Option.some.injEq] at named
      rw [named, parentName]

theorem prepares_sees {inst : Instance} (prepares : Prepares (configToVr fromStr conf) inst)
    (genuine : ∀ family, (family = .v6 → conf.version = .v3) →
      host.Genuine conf.interfaceName conf.vrid family) (now setAt : Instant) :
    inst.vrouter.SeesVirtualMacs (host.env now setAt) := by
  obtain ⟨_, vrid, names⟩ := prepares_linked prepares
  intro family iface interface side found
  obtain ⟨named, dual⟩ := names family iface side
  rw [Host.get_interface_env] at found
  cases present : host.link iface with
  | none => simp [present] at found
  | some link =>
      simp only [present, Except.ok.injEq] at found
      have mac := genuine family dual link (named ▸ present)
      refine ⟨BitVec.ofNat 48 (ofBytes (family.virtualMac conf.vrid)), ?_, ?_⟩
      · rw [← found, Link.interface, mac]
        rfl
      · rw [octets_of_nat (by rfl), vrid]
        have restored := to_bytes_of_bytes (family.virtualMac conf.vrid)
        cases family <;> exact restored

/-- The host and the session before a step of one call of `run`. -/
structure Ready (fromStr : String → Option IpNet) (conf : Config) (host : Host)
    (session : Session) : Prop where
  follows : session.Follows (configToVr fromStr conf)
  genuine : ∀ family, session.Linked family → host.Genuine conf.interfaceName conf.vrid family
  sound : session.inst.poisoned = false
  matched : session.inst.vrouter.fsm.Matched

theorem Ready.prepares (ready : Ready fromStr conf host session)
    (runs : session.phase = .startup ∨ session.phase.serves = true) :
    Prepares (configToVr fromStr conf) session.inst := by
  have follows := ready.follows
  unfold Follows at follows
  rcases runs with startup | serves
  · rw [startup] at follows
    exact follows
  · unfold Phase.serves at serves
    split at serves
    · rename_i timer leaving phase
      rw [phase] at follows
      exact follows
    · contradiction

theorem Ready.sees (ready : Ready fromStr conf host session)
    (runs : session.phase = .startup ∨ session.phase.serves = true) (now setAt : Instant) :
    session.inst.vrouter.SeesVirtualMacs (host.env now setAt) := by
  have prepares := ready.prepares runs
  obtain ⟨version, _, _⟩ := prepares_linked prepares
  apply prepares_sees prepares
  intro family dual
  apply ready.genuine
  unfold Linked
  rcases runs with startup | serves
  · rw [startup]
    cases family with
    | v4 => trivial
    | v6 => exact version.trans (dual rfl)
  · unfold Phase.serves at serves
    split at serves
    · rename_i timer leaving phase
      rw [phase]
      cases family with
      | v4 => trivial
      | v6 => exact version.trans (dual rfl)
    · contradiction

theorem brings_running {input : Input} (brought : session.brings move = some input) :
    session.phase = .startup ∨ session.phase.serves = true := by
  cases move with
  | advance =>
      simp only [brings] at brought
      split at brought
      · rename_i phase
        exact .inl phase
      · contradiction
  | handle moved =>
      simp only [brings] at brought
      split at brought
      · rename_i timer leaving phase
        rw [phase]
        exact .inr rfl
      · contradiction
  | finish => contradiction

theorem brings_handle {moved input : Input}
    (brought : session.brings (.handle moved) = some input) : input = moved := by
  simp only [brings] at brought
  split at brought
  · split_ifs at brought
    cases brought
    rfl
  · contradiction

theorem brings_advance {input : Input} (brought : session.brings .advance = some input) :
    input = .notify .startup := by
  simp only [brings] at brought
  split at brought
  · cases brought
    rfl
  · contradiction

theorem advance_silent {effects : List Effect} (quiet : session.phase ≠ .startup)
    (advanced : session.advance host now setAt = .ok (next, after, effects)) : effects = [] := by
  unfold advance at advanced
  cases phase : session.phase with
  | startup => exact absurd phase quiet
  | lookup =>
      simp only [phase] at advanced
      obtain ⟨parent, _, rest⟩ := except_bind_ok advanced
      obtain ⟨primaryIp, _, result⟩ := except_bind_ok rest
      cases result
      rfl
  | createV4 parent =>
      simp only [phase] at advanced
      obtain ⟨made, _, result⟩ := except_bind_ok advanced
      cases result
      rfl
  | checkV4 parent =>
      simp only [phase] at advanced
      obtain ⟨interface, _, result⟩ := except_bind_ok advanced
      cases result
      rfl
  | createV6 parent =>
      simp only [phase] at advanced
      obtain ⟨made, _, result⟩ := except_bind_ok advanced
      cases result
      rfl
  | checkV6 v6Name =>
      simp only [phase] at advanced
      obtain ⟨interface, _, result⟩ := except_bind_ok advanced
      cases result
      rfl
  | serving timer leaving =>
      simp only [phase] at advanced
      cases advanced
      rfl
  | ended result =>
      simp only [phase] at advanced
      cases advanced
      rfl

theorem step_calls (session : Session) (host : Host) (now setAt : Instant) (move : Move) :
    (session.step host now setAt move).2.2 =
      match session.brings move with
      | some input => (session.inst.step (host.env now setAt) input).2
      | none => [] := by
  cases move with
  | advance =>
      by_cases startup : session.phase = .startup
      · simp [step, advance, brings, startup]
      · have nothing : session.brings .advance = none := by simp only [brings]
        rw [nothing]
        simp only [step]
        cases advanced : session.advance host now setAt with
        | error error => rfl
        | ok result => exact advance_silent startup advanced
  | handle input =>
      cases phase : session.phase with
      | serving timer leaving =>
          simp only [step, brings, phase]
          by_cases stop : input = .notify .shutdown ∧ leaving = false
          · rw [if_pos stop, if_pos (.inl stop)]
            rfl
          · by_cases task : input.HasTask session.inst.vrouter.version timer = true
            · rw [if_neg stop, if_pos task, if_pos (.inr task)]
              rfl
            · rw [if_neg stop, if_neg task, if_neg (not_or.mpr ⟨stop, task⟩)]
      | _ => simp only [step, brings, phase]
  | finish =>
      simp only [step, brings]
      split <;> rfl

theorem step_inst {input : Input} (brought : session.brings move = some input) (host : Host)
    (now setAt : Instant) :
    (session.step host now setAt move).2.1.inst =
      (session.inst.step (host.env now setAt) input).1 := by
  cases move with
  | advance =>
      simp only [brings] at brought
      split at brought
      · rename_i phase
        cases brought
        simp [step, advance, phase]
      · contradiction
  | handle moved =>
      simp only [brings] at brought
      split at brought
      · rename_i timer leaving phase
        split_ifs at brought with task
        cases brought
        simp only [step, phase]
        split_ifs with stop served
        · rfl
        · rfl
        · exact absurd task (not_or.mpr ⟨stop, served⟩)
      · contradiction
  | finish => contradiction

theorem step_version (inst : Instance) (env : Env) (input : Input) :
    (inst.step env input).1.vrouter.version = inst.vrouter.version := by
  cases poisoned : inst.poisoned with
  | true => rw [Instance.step_poisoned poisoned]
  | false =>
      obtain ⟨fsm, same⟩ := transition_config (Instance.step_transition poisoned env input)
      rw [same]
      rfl

theorem Ready.step (ready : Ready fromStr conf host session) (now setAt : Instant) (move : Move) :
    Ready fromStr conf (session.step host now setAt move).1
      (session.step host now setAt move).2.1 := by
  have course := session.step_course host now setAt move
  have follows := course_follows course ready.follows
  have kept {family : AddressFamily} (linked : session.Linked family) :=
    course_genuine course (ready.genuine family linked)
  generalize (session.step host now setAt move).1 = next at course kept ⊢
  generalize (session.step host now setAt move).2.1 = after at course follows ⊢
  -- The lock and the timer are those of a step of the router, or of a new instance.
  have handled (input : Input)
      (runs : session.phase = .startup ∨ session.phase.serves = true) :=
    Instance.step_within ready.sound ready.matched (ready.sees runs now setAt) input
  cases course with
  | idle => exact ready
  | ends => exact ⟨follows, fun family linked => linked.elim, ready.sound, ready.matched⟩
  | lookup => exact ⟨follows, fun family linked => linked.elim, rfl, ready.matched⟩
  | createV4 phase created =>
      refine ⟨follows, fun family linked => ?_, rfl, ready.matched⟩
      have before := ready.follows
      simp only [Follows, phase] at before
      obtain ⟨name, primaryIp, inst⟩ := before
      cases family with
      | v6 => exact linked.elim
      | v4 =>
          have added := (Host.create_mac_vlan_genuine created).1
          rw [name, inst] at added
          exact added
  | checkV4 phase =>
      refine ⟨follows, fun family linked => ?_, ready.sound, ready.matched⟩
      cases family with
      | v4 =>
          apply kept
          unfold Linked
          rw [phase]
          trivial
      | v6 =>
          unfold Linked at linked
          simp only at linked
          split_ifs at linked with version
          · exact linked.elim
          · exact absurd linked version
  | createV6 phase created =>
      refine ⟨follows, fun family linked => ?_, rfl, ready.matched⟩
      have before := ready.follows
      simp only [Follows, phase] at before
      obtain ⟨name, version, primaryIp, inst⟩ := before
      cases family with
      | v4 =>
          apply kept
          unfold Linked
          rw [phase]
          trivial
      | v6 =>
          have added := (Host.create_mac_vlan_genuine created).1
          rw [name, inst] at added
          exact added
  | checkV6 phase =>
      refine ⟨follows, fun family _ => ?_, ready.sound, ready.matched⟩
      apply kept
      unfold Linked
      rw [phase]
      trivial
  | startup phase =>
      have after := handled (.notify .startup) (.inl phase)
      refine ⟨follows, fun family linked => ?_, after.1, after.2.1⟩
      apply kept
      unfold Linked at linked ⊢
      rw [phase]
      simp only at linked
      split_ifs at linked
      · cases family with
        | v4 => trivial
        | v6 => exact (step_version _ _ _).symm.trans linked
      · exact linked.elim
  | serves timerNext phase task =>
      rename_i input timer leaving
      have after := handled input (.inr (by rw [phase]; rfl))
      refine ⟨follows, fun family linked => ?_, after.1, after.2.1⟩
      apply kept
      unfold Linked at linked ⊢
      rw [phase]
      cases family with
      | v4 => trivial
      | v6 => exact (step_version _ _ _).symm.trans linked
  | stops phase =>
      have after := handled (.notify .shutdown) (.inr (by rw [phase]; rfl))
      refine ⟨follows, fun family linked => ?_, after.1, after.2.1⟩
      apply kept
      unfold Linked at linked ⊢
      rw [phase]
      cases family with
      | v4 => trivial
      | v6 => exact (step_version _ _ _).symm.trans linked

theorem Ready.calls (ready : Ready fromStr conf host session) (now setAt : Instant) (move : Move) :
    ∀ effect ∈ (session.step host now setAt move).2.2,
      Prepares (configToVr fromStr conf) session.inst ∧ effect.Within session.inst.vrouter ∧
        (effect.IsSent → session.inst.vrouter.fsm.state = .master ∨
          (session.step host now setAt move).2.1.inst.vrouter.fsm.state = .master) := by
  intro effect member
  rw [step_calls] at member
  cases brought : session.brings move with
  | none =>
      rw [brought] at member
      contradiction
  | some input =>
      rw [brought] at member
      rw [step_inst brought]
      have runs := brings_running brought
      have stepped := Instance.step_within ready.sound ready.matched
        (ready.sees runs now setAt) input
      exact ⟨ready.prepares runs, stepped.2.2 effect member⟩

end Session

namespace Daemon

variable {Name : Type*} [DecidableEq Name] {fromStr : String → Option IpNet} {conf : Name → Config}

/-- Every call of `run` is ready for its next step. -/
def Ready (fromStr : String → Option IpNet) (conf : Name → Config) (daemon : Daemon Name) : Prop :=
  ∀ name, (daemon.sessions name).Ready fromStr (conf name) daemon.host

omit [DecidableEq Name] in
theorem start_ready (host : Host) : Ready fromStr conf (start fromStr conf host) := by
  intro name
  exact ⟨rfl, fun family linked => linked.elim, rfl, ⟨rfl, rfl⟩⟩

theorem ready_step (daemon : Daemon Name) (occurrence : Occurrence Name)
    (ready : Ready fromStr conf daemon) :
    Ready fromStr conf (machine.step daemon occurrence).1 := by
  cases occurrence with
  | autoconfigure iface net =>
      intro name
      obtain ⟨follows, genuine, sound, matched⟩ := ready name
      exact ⟨follows, fun family linked => (genuine family linked).autoconfigure iface net, sound,
        matched⟩
  | run mover now setAt move =>
      intro name
      by_cases same : name = mover
      · subst same
        simp only [machine, Function.update_self]
        exact (ready name).step now setAt move
      · simp only [machine, Function.update_of_ne same]
        obtain ⟨follows, genuine, sound, matched⟩ := ready name
        have course := (daemon.sessions mover).step_course daemon.host now setAt move
        exact ⟨follows, fun family linked => Session.course_genuine course (genuine family linked),
          sound, matched⟩

theorem ready_after (host : Host) (occurrences : List (Occurrence Name)) :
    Ready fromStr conf (machine.after (start fromStr conf host) occurrences) :=
  machine.after_invariant (Ready fromStr conf) ready_step (start_ready host) occurrences

/-- No handler of any instance ever panics, so no lock is ever poisoned, whatever the
host was like and whatever the other instances do in between. -/
theorem no_handler_panics (fromStr : String → Option IpNet) (conf : Name → Config) (host : Host)
    (occurrences : List (Occurrence Name)) (name : Name) :
    let daemon := machine.after (start fromStr conf host) occurrences
    let session := daemon.sessions name
    session.inst.poisoned = false ∧
      ∀ now setAt move input, session.brings move = some input →
        (session.inst.vrouter.handle (daemon.host.env now setAt) input).result ≠ .panicked := by
  intro daemon session
  have ready : session.Ready fromStr (conf name) daemon.host := ready_after host occurrences name
  refine ⟨ready.sound, ?_⟩
  intro now setAt move input brought panicked
  have sees := ready.sees (Session.brings_running brought) now setAt
  have transition := handle_transition (daemon.host.env now setAt) session.inst.vrouter input
  have unpanicked := transition_unpanicked transition sees
  simp [Handled.panics, panicked] at unpanicked

/-- In every run each instance calls for nothing beyond the mac-vlans, the addresses and
the virtual MAC addresses of its configuration, and sends only as a Master. -/
theorem calls_stay_within (fromStr : String → Option IpNet) (conf : Name → Config) (host : Host)
    (occurrences : List (Occurrence Name)) :
    machine.AllSteps
      (fun daemon occurrence => ∀ name now setAt move, occurrence = .run name now setAt move →
        ∀ effect ∈ (machine.step daemon occurrence).2,
          Session.Prepares (configToVr fromStr (conf name)) (daemon.sessions name).inst ∧
          effect.Within (daemon.sessions name).inst.vrouter ∧
          (effect.IsSent → (daemon.sessions name).inst.vrouter.fsm.state = .master ∨
            ((machine.step daemon occurrence).1.sessions name).inst.vrouter.fsm.state = .master))
      (start fromStr conf host) occurrences := by
  apply machine.all_steps_of_invariant (Ready fromStr conf) ready_step _ (start_ready host)
  intro daemon occurrence ready name now setAt move same effect member
  subst same
  simp only [machine, Function.update_self] at member ⊢
  exact (ready name).calls now setAt move effect member

end Daemon

end Failover
