import Failover.LinkOwnership
import Failover.StateTimer

/-!
# What a call of `run` holds on to

An instance whose VRID no other instance of the host uses has its mac-vlans for
itself. They are there from the time it has looked them up until its own `Shutdown`,
and as long as they are there its timer task goes on.
-/

namespace Failover

open Library VirtualRouter

set_option autoImplicit false

namespace VirtualRouter

def LinkedOn (vrouter : VirtualRouter) (host : Host) : Prop :=
  ∀ family iface, vrouter.macVlan family = some iface → host.Has iface

variable {vrouter next : VirtualRouter} {input : Input} {effects : List Effect}
  {panicked : Bool} {host : Host} {now setAt : Instant}

theorem linked_perform_all (linked : vrouter.LinkedOn host)
    (kept : ∀ name, .deleteMacVlan name ∉ effects) : vrouter.LinkedOn (host.performAll effects) :=
  fun family iface side => (Host.has_perform_all (kept iface)).mpr (linked family iface side)

theorem init_of_deletion {env : Env}
    (transition : Transition env vrouter input next effects panicked) {name : String}
    (member : .deleteMacVlan name ∈ effects) : next.fsm.state = .init := by
  by_cases stops : Fires env vrouter input .shutdown
  · cases stops
    cases transition with
    | silent => contradiction
    | neighbor neighbor => exact neighbor.elim
    | panics fires takesOver =>
        cases fires
        rcases takesOver with ⟨wrong, _⟩ | ⟨wrong, _⟩ <;> contradiction
    | takesOver fires takesOver =>
        cases fires
        rcases takesOver with ⟨wrong, _⟩ | ⟨wrong, _⟩ <;> contradiction
    | starts fires => cases fires
    | stopsInit fires link state => exact state
    | stopsBackup => rfl
    | stopsMaster => rfl
    | hearsLeaving hears => contradiction
    | defers hears => contradiction
    | preempts hears => contradiction
    | answers hears => contradiction
    | yields event hears => contradiction
  · exact absurd member (transition_keeps_links transition stops name)

theorem linked_after (linked : vrouter.LinkedOn host)
    (transition : Transition (host.env now setAt) vrouter input next effects panicked)
    (leaves : next.fsm.state ≠ .init) : next.LinkedOn (host.performAll effects) := by
  obtain ⟨fsm, config⟩ := transition_config transition
  have same (family : AddressFamily) : next.macVlan family = vrouter.macVlan family := by
    rw [config]
    cases family <;> rfl
  have kept (name : String) : .deleteMacVlan name ∉ effects :=
    fun member => leaves (init_of_deletion transition member)
  intro family iface side
  exact linked_perform_all linked kept family iface (by rw [← same]; exact side)

theorem stays_init {env : Env}
    (transition : Transition env vrouter input next effects panicked)
    (unstarted : input ≠ .notify .startup) (state : vrouter.fsm.state = .init) :
    next.fsm.state = .init := by
  cases transition with
  | takesOver fires takesOver =>
      rcases takesOver with ⟨rfl, _⟩ | ⟨_, backup⟩
      · cases fires
        exact absurd rfl unstarted
      · rw [state] at backup
        contradiction
  | starts fires =>
      cases fires
      exact absurd rfl unstarted
  | advertises => exact state
  | stopsBackup => rfl
  | stopsMaster => rfl
  | hearsLeaving hears backup => exact state
  | defers hears backup => exact state
  | answers hears master => exact state
  | preempts hears link backup =>
      rw [state] at backup
      contradiction
  | yields event hears link master =>
      rw [state] at master
      contradiction
  | _ => exact state

theorem stays_running {env : Env}
    (transition : Transition env vrouter input next effects panicked)
    (unstopped : input ≠ .notify .shutdown) (running : vrouter.fsm.state ≠ .init) :
    next.fsm.state ≠ .init := by
  have stopping {event : Event} (fires : Fires env vrouter input event) : event ≠ .shutdown := by
    intro same
    subst same
    cases fires
    exact unstopped rfl
  cases transition with
  | takesOver => simp [masterFsm]
  | starts => simp [backupFsm]
  | stopsInit fires => exact absurd rfl (stopping fires)
  | stopsBackup fires => exact absurd rfl (stopping fires)
  | stopsMaster fires => exact absurd rfl (stopping fires)
  | preempts => simp [masterFsm]
  | yields => simp [backupFsm]
  | _ => exact running

theorem startup_leaves_init {env : Env} (state : vrouter.fsm.state = .init)
    (succeeds : (vrouter.notifyMut env .startup).result = .ok ()) :
    (vrouter.notifyMut env .startup).vrouter.fsm.state ≠ .init := by
  cases found : env.getInterface vrouter.macVlanInterfaceV4 with
  | error error => simp [notifyMut, found, Handled.failed] at succeeds
  | ok interface =>
      simp only [notifyMut, found, state, if_true] at succeeds ⊢
      split_ifs at succeeds ⊢
      · unfold becomeMaster at succeeds ⊢
        split at succeeds
        · contradiction
        · rename_i mac shown
          simp [Handled.done]
      · simp [Handled.done]

end VirtualRouter

namespace Session

variable {fromStr : String → Option IpNet} {conf : Config} {host next : Host}
  {session : Session}

/-- A call that has not started keeps the mac-vlans it has looked up. A started one keeps
them until `Shutdown`, and its timer task goes on. -/
def Attached (conf : Config) (host : Host) (session : Session) : Prop :=
  match session.phase with
  | .serving timer leaving => timer = true ∧
      (leaving = true ↔ session.inst.vrouter.fsm.state = .init) ∧
        (session.inst.vrouter.fsm.state ≠ .init → session.inst.vrouter.LinkedOn host)
  | .ended _ => True
  | _ => session.inst.vrouter.fsm.state = .init ∧ ∀ family, session.Linked family →
      host.Has (macVlanName conf.interfaceName conf.vrid family)

theorem serving_of_serves (serves : session.phase.serves = true) :
    ∃ timer leaving, session.phase = .serving timer leaving := by
  unfold Phase.serves at serves
  split at serves
  · rename_i timer leaving phase
    exact ⟨timer, leaving, phase⟩
  · contradiction

theorem Attached.linked (attached : session.Attached conf host)
    (serves : session.phase.serves = true) (running : session.inst.vrouter.fsm.state ≠ .init) :
    session.inst.vrouter.LinkedOn host := by
  obtain ⟨timer, leaving, phase⟩ := serving_of_serves serves
  unfold Attached at attached
  rw [phase] at attached
  exact attached.2.2 running

theorem Ready.mac_vlan (ready : Ready fromStr conf host session)
    (serves : session.phase.serves = true) {family : AddressFamily} {iface : String}
    (side : session.inst.vrouter.macVlan family = some iface) :
    iface = macVlanName conf.interfaceName conf.vrid family :=
  ((prepares_linked (ready.prepares (.inr serves))).2.2 family iface side).1

theorem brings_served {timer leaving : Bool} (phase : session.phase = .serving timer leaving)
    {input : Input} (task : (input = .notify .shutdown ∧ leaving = false) ∨
      input.HasTask session.inst.vrouter.version timer = true) :
    session.brings (.handle input) = some input := by
  simp only [brings, phase]
  rw [if_pos task]

def Underway (session : Session) : Prop :=
  session.phase.serves = true ∨ ∃ result, session.phase = .ended result

theorem step_underway {session : Session} (underway : session.Underway) (host : Host)
    (now setAt : Instant) (move : Move) :
    (session.step host now setAt move).2.1.Underway ∧
      (session.step host now setAt move).2.1.inst =
        match session.brings move with
        | some input => (session.inst.step (host.env now setAt) input).1
        | none => session.inst := by
  have course := session.step_course host now setAt move
  have unprepared {phase : Phase} (at_ : session.phase = phase) (early : phase.serves = false)
      (running : ∀ result, phase ≠ .ended result) : False := by
    rcases underway with serves | ⟨result, ended⟩
    · rw [at_, early] at serves
      contradiction
    · exact running result (at_.symm.trans ended)
  constructor
  · generalize (session.step host now setAt move).1 = next at course
    generalize (session.step host now setAt move).2.1 = after at course ⊢
    cases course with
    | idle => exact underway
    | ends result => exact .inr ⟨result, rfl⟩
    | lookup primaryIp phase => exact (unprepared phase rfl (by simp)).elim
    | createV4 phase => exact (unprepared phase rfl (by simp)).elim
    | checkV4 phase => exact (unprepared phase rfl (by simp)).elim
    | createV6 phase => exact (unprepared phase rfl (by simp)).elim
    | checkV6 phase => exact (unprepared phase rfl (by simp)).elim
    | startup phase => exact (unprepared phase rfl (by simp)).elim
    | serves => exact .inl rfl
    | stops => exact .inl rfl
  · cases brought : session.brings move with
    | some input => exact step_inst brought host now setAt
    | none =>
        generalize (session.step host now setAt move).1 = next at course
        generalize (session.step host now setAt move).2.1 = after at course ⊢
        cases course with
        | idle => rfl
        | ends result => rfl
        | lookup primaryIp phase => exact (unprepared phase rfl (by simp)).elim
        | createV4 phase => exact (unprepared phase rfl (by simp)).elim
        | checkV4 phase => exact (unprepared phase rfl (by simp)).elim
        | createV6 phase => exact (unprepared phase rfl (by simp)).elim
        | checkV6 phase => exact (unprepared phase rfl (by simp)).elim
        | startup phase => exact (unprepared phase rfl (by simp)).elim
        | serves timerNext phase task =>
            rw [brings_served phase (.inr task)] at brought
            contradiction
        | stops phase =>
            rw [brings_served phase (.inl ⟨rfl, rfl⟩)] at brought
            contradiction

theorem Attached.congr (attached : session.Attached conf host)
    (ready : Ready fromStr conf host session)
    (has : ∀ family, next.Has (macVlanName conf.interfaceName conf.vrid family) ↔
      host.Has (macVlanName conf.interfaceName conf.vrid family)) :
    session.Attached conf next := by
  unfold Attached at attached ⊢
  cases phase : session.phase with
  | serving timer leaving =>
      simp only [phase] at attached ⊢
      obtain ⟨ticking, left, linked⟩ := attached
      refine ⟨ticking, left, ?_⟩
      intro started family iface side
      have same := has family
      rw [← ready.mac_vlan (by rw [phase]; rfl) side] at same
      rw [same]
      exact linked started family iface side
  | ended result => trivial
  | _ =>
      simp only [phase] at attached ⊢
      obtain ⟨state, linked⟩ := attached
      exact ⟨state, fun family created => (has family).mpr (linked family created)⟩

theorem Ready.linked_at_startup (ready : Ready fromStr conf host session)
    (phase : session.phase = .startup) (created : ∀ family, session.Linked family →
      host.Has (macVlanName conf.interfaceName conf.vrid family)) :
    session.inst.vrouter.LinkedOn host := by
  obtain ⟨version, _, names⟩ := prepares_linked (ready.prepares (.inl phase))
  intro family iface side
  obtain ⟨named, dual⟩ := names family iface side
  rw [named]
  apply created
  unfold Linked
  rw [phase]
  cases family with
  | v4 => trivial
  | v6 => exact version.trans (dual rfl)

/-- The timer task finds its mac-vlan and a MAC address on it, so `notify_mut` succeeds. -/
theorem Ready.timer_survives (ready : Ready fromStr conf host session)
    (serves : session.phase.serves = true)
    (linked : session.inst.vrouter.fsm.state ≠ .init → session.inst.vrouter.LinkedOn host)
    (now setAt : Instant) (input : Input) :
    session.inst.timerSurvives (host.env now setAt) input = true := by
  cases input with
  | tick =>
      suffices succeeds : (session.inst.vrouter.timerTick (host.env now setAt)).result = .ok () by
        simp [Instance.timerSurvives, succeeds]
      unfold timerTick
      cases type : session.inst.vrouter.fsm.timer.tType with
      | null => rfl
      | adver =>
          cases session.inst.vrouter.fsm.timer.waitingFor with
          | none => rfl
          | some waiting =>
              simp only
              split <;> rfl
      | masterDown =>
          have matched := ready.matched
          have backup : session.inst.vrouter.fsm.state = .backup := by
            unfold VirtualRouterMachine.Matched at matched
            cases state : session.inst.vrouter.fsm.state with
            | init => simp [state, type] at matched
            | backup => rfl
            | master => simp [state, type] at matched
          obtain ⟨link, present⟩ := Option.isSome_iff_exists.mp (linked (by simp [backup]) .v4 _ rfl)
          have found := host.get_interface_env now setAt
            session.inst.vrouter.macVlanInterfaceV4
          rw [present] at found
          obtain ⟨mac, shown, _⟩ := ready.sees (.inr serves) now setAt .v4 _ _ rfl found
          cases session.inst.vrouter.fsm.timer.waitingFor with
          | none => rfl
          | some waiting =>
              simp only
              split
              · simp [notifyMut, found, backup, becomeMaster, shown, Handled.done]
              · rfl
  | _ => rfl

theorem step_timer {before leaving : Bool} (phase : session.phase = .serving true before)
    {now setAt : Instant} (survives : ∀ input,
      session.inst.timerSurvives (host.env now setAt) input = true) (move : Move)
    {after : Bool} (serves : (session.step host now setAt move).2.1.phase =
      .serving after leaving) : after = true := by
  cases move with
  | advance =>
      simp only [step, advance, phase, Phase.serving.injEq] at serves
      exact serves.1.symm
  | handle input =>
      simp only [step, phase] at serves
      split_ifs at serves
      · simp only [serve, Phase.serving.injEq] at serves
        exact serves.1.symm
      · simp only [serve, survives, Phase.serving.injEq, Bool.and_true] at serves
        exact serves.1.symm
      · rw [phase, Phase.serving.injEq] at serves
        exact serves.1.symm
  | finish =>
      simp only [step, phase] at serves
      split at serves
      · contradiction
      · rw [phase, Phase.serving.injEq] at serves
        exact serves.1.symm

theorem Ready.attached_step (ready : Ready fromStr conf host session)
    (attached : session.Attached conf host) (now setAt : Instant) (move : Move) :
    (session.step host now setAt move).2.1.Attached conf (session.step host now setAt move).1 := by
  have course := session.step_course host now setAt move
  have follows := ready.follows
  have ticks {timer leaving after : Bool} (phase : session.phase = .serving timer leaving)
      (serves : ∃ later, (session.step host now setAt move).2.1.phase = .serving after later) :
      after = true := by
    unfold Attached at attached
    rw [phase] at attached
    obtain ⟨rfl, _, linked⟩ := attached
    obtain ⟨later, serves⟩ := serves
    exact step_timer phase (ready.timer_survives (by rw [phase]; rfl) linked now setAt) move serves
  generalize (session.step host now setAt move).1 = next at course ⊢
  generalize (session.step host now setAt move).2.1 = after at course ticks ⊢
  have transition := Instance.step_transition ready.sound (host.env now setAt)
  cases course with
  | idle => exact attached
  | ends => trivial
  | lookup primaryIp phase found =>
      simp only [Attached, phase] at attached
      exact ⟨attached.1, fun family linked => linked.elim⟩
  | createV4 phase created =>
      simp only [Attached, phase] at attached
      simp only [Follows, phase] at follows
      obtain ⟨name, primaryIp, inst⟩ := follows
      obtain ⟨named, present, _⟩ := Host.create_mac_vlan_ok created
      refine ⟨attached.1, fun family linked => ?_⟩
      cases family with
      | v6 => exact linked.elim
      | v4 =>
          rw [named, name, inst] at present
          exact present
  | checkV4 phase =>
      simp only [Attached, phase] at attached
      obtain ⟨state, linked⟩ := attached
      have v4Linked : session.Linked .v4 := by
        unfold Linked
        rw [phase]
        trivial
      by_cases version : session.inst.vrouter.version = .v3
      · rw [if_pos version]
        refine ⟨state, fun family created => ?_⟩
        cases family with
        | v4 => exact linked .v4 v4Linked
        | v6 => exact created.elim
      · rw [if_neg version]
        refine ⟨state, fun family created => ?_⟩
        cases family with
        | v4 => exact linked .v4 v4Linked
        | v6 => exact absurd created version
  | createV6 phase created =>
      simp only [Attached, phase] at attached
      simp only [Follows, phase] at follows
      obtain ⟨name, version, primaryIp, inst⟩ := follows
      obtain ⟨named, present, _⟩ := Host.create_mac_vlan_ok created
      refine ⟨attached.1, fun family linked => ?_⟩
      cases family with
      | v4 =>
          apply Host.has_create_mac_vlan created
          apply attached.2
          unfold Linked
          rw [phase]
          trivial
      | v6 =>
          rw [named, name, inst] at present
          exact present
  | checkV6 phase =>
      simp only [Attached, phase] at attached
      refine ⟨attached.1, fun family _ => attached.2 family ?_⟩
      unfold Linked
      rw [phase]
      trivial
  | startup phase =>
      simp only [Attached, phase] at attached
      obtain ⟨state, created⟩ := attached
      unfold Attached
      split_ifs with succeeds
      · have leaves : (session.inst.step (host.env now setAt) (.notify .startup)).1.vrouter.fsm.state
            ≠ .init := by
          have left := startup_leaves_init state succeeds
          simpa only [Instance.step, ready.sound, Bool.false_eq_true, if_false,
            VirtualRouter.handle] using left
        have linked := ready.linked_at_startup phase created
        refine ⟨rfl, iff_of_false (by simp) leaves, ?_⟩
        exact fun _ => linked_after linked (transition _) leaves
      · trivial
  | serves timerNext phase task =>
      rename_i input timer leaving
      have ticking := ticks phase ⟨leaving, rfl⟩
      simp only [Attached, phase] at attached
      obtain ⟨_, left, linked⟩ := attached
      have stepped := transition input
      have ordinary := Input.not_notify_of_task task
      refine ⟨ticking, left.trans ⟨stays_init stepped (ordinary .startup), ?_⟩, ?_⟩
      · intro state
        by_contra running
        exact stays_running stepped (ordinary .shutdown) running state
      · intro leaves
        have started : session.inst.vrouter.fsm.state ≠ .init :=
          fun state => leaves (stays_init stepped (ordinary .startup) state)
        exact linked_after (linked started) stepped leaves
  | stops phase =>
      have ticking := ticks phase ⟨true, rfl⟩
      simp only [Attached, phase] at attached
      obtain ⟨_, left, linked⟩ := attached
      have stepped := transition (.notify .shutdown)
      have running : session.inst.vrouter.fsm.state ≠ .init := by
        intro state
        have gone := left.mpr state
        contradiction
      obtain ⟨link, present⟩ := Option.isSome_iff_exists.mp (linked running .v4 _ rfl)
      have found := host.get_interface_env now setAt session.inst.vrouter.macVlanInterfaceV4
      rw [present] at found
      have stopped := transition_shutdown stepped found
      exact ⟨ticking, iff_of_true rfl stopped, fun leaves => absurd stopped leaves⟩

end Session

namespace Daemon

variable {Name : Type*} [DecidableEq Name] {fromStr : String → Option IpNet} {conf : Name → Config}

omit [DecidableEq Name] in
/-- The other instances of the host leave the mac-vlans of this one alone. -/
theorem link_kept_by_others {name mover : Name}
    (alone : ∀ other, other ≠ name → (conf other).vrid ≠ (conf name).vrid)
    (different : mover ≠ name) {daemon : Daemon Name} (ready : Ready fromStr conf daemon)
    (now setAt : Instant) (move : Move) (family : AddressFamily) :
    ((daemon.sessions mover).step daemon.host now setAt move).1.link
        (macVlanName (conf name).interfaceName (conf name).vrid family) =
      daemon.host.link (macVlanName (conf name).interfaceName (conf name).vrid family) := by
  apply (ready mover).link_kept
  intro other clash
  exact alone mover different (mac_vlan_name_vrid clash).symm

theorem attached_step {name : Name}
    (alone : ∀ other, other ≠ name → (conf other).vrid ≠ (conf name).vrid)
    (daemon : Daemon Name) (occurrence : Occurrence Name)
    (holds : Ready fromStr conf daemon ∧ (daemon.sessions name).Attached (conf name) daemon.host) :
    Ready fromStr conf (machine.step daemon occurrence).1 ∧
      ((machine.step daemon occurrence).1.sessions name).Attached (conf name)
        (machine.step daemon occurrence).1.host := by
  obtain ⟨ready, attached⟩ := holds
  refine ⟨ready_step daemon occurrence ready, ?_⟩
  cases occurrence with
  | autoconfigure target net =>
      apply attached.congr (ready name)
      exact fun family => Host.has_autoconfigure daemon.host target _ net
  | run mover now setAt move =>
      by_cases same : mover = name
      · subst same
        simp only [machine, Function.update_self]
        exact (ready mover).attached_step attached now setAt move
      · simp only [machine, Function.update_of_ne (Ne.symm same)]
        apply attached.congr (ready name)
        intro family
        rw [Host.Has, Host.Has, link_kept_by_others alone same ready now setAt move]

omit [DecidableEq Name] in
theorem start_attached (host : Host) (name : Name) :
    ((start fromStr conf host).sessions name).Attached (conf name) host :=
  ⟨rfl, fun _ linked => linked.elim⟩

theorem attached_after {name : Name}
    (alone : ∀ other, other ≠ name → (conf other).vrid ≠ (conf name).vrid) (host : Host)
    (occurrences : List (Occurrence Name)) :
    let daemon := machine.after (start fromStr conf host) occurrences
    Ready fromStr conf daemon ∧ (daemon.sessions name).Attached (conf name) daemon.host :=
  machine.after_invariant (fun daemon => Ready fromStr conf daemon ∧
    (daemon.sessions name).Attached (conf name) daemon.host) (attached_step alone)
    ⟨start_ready host, start_attached host name⟩ occurrences

end Daemon

end Failover
