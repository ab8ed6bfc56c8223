import Failover.HostAddresses
import Failover.Preemption
import Failover.Succession

/-!
# When a Backup takes over

A Backup that accepts no more advertisements is left to its timer task. The first of
its ticks that reads the clock after the deadline of the last one makes it Master,
whatever else it receives and whatever the other instances of the host do.
-/

namespace Failover

open Library VirtualRouter

set_option autoImplicit false

namespace Instance

variable {inst : Instance} {env : Env} {input : Input}

theorem silent_backup (sound : inst.poisoned = false)
    (backup : inst.vrouter.fsm.state = .backup)
    (type : inst.vrouter.fsm.timer.tType = .masterDown) {deadline : Instant}
    (waiting : inst.vrouter.fsm.timer.waitingFor = some deadline)
    (unheard : inst.vrouter.heard env input = none)
    (unnotified : ∀ event, input ≠ .notify event)
    {interface : NetworkInterface} {mac : MacAddr}
    (link : env.getInterface inst.vrouter.macVlanInterfaceV4 = .ok interface)
    (found : interface.mac = some mac) :
    (input = .tick ∧ deadline < env.now → (inst.step env input).1.vrouter.fsm.state = .master) ∧
      (¬ (input = .tick ∧ deadline < env.now) → (inst.step env input).1.vrouter = inst.vrouter) := by
  constructor
  · rintro ⟨rfl, late⟩
    apply (tick_promotes_iff sound backup env).mpr
    exact ⟨⟨type, deadline, waiting, late⟩, interface, mac, link, found⟩
  · intro early
    by_cases tick : input = .tick
    · subst tick
      have notDue : ¬ inst.Due env .masterDown := by
        rw [due_iff sound type waiting]
        exact fun late => early ⟨rfl, late⟩
      have notAdver : ¬ inst.Due env .adver := by
        intro due
        have other := due_type due
        rw [type] at other
        contradiction
      rw [step_tick_waits notDue notAdver]
    · exact (transition_unheard (step_transition sound env input) unnotified tick unheard).1

theorem waits_after_advert (sound : inst.poisoned = false)
    (started : inst.vrouter.fsm.state ≠ .init) {packet : VrrpPacket}
    (hears : inst.vrouter.heard env input = some packet)
    (backup : (inst.step env input).1.vrouter.fsm.state = .backup) :
    (inst.step env input).1.vrouter.fsm.timer.waitingFor =
      some (env.setAt + inst.vrouter.patience packet) := by
  have hearing := (transition_hearing (step_transition sound env input) hears).1
  generalize (inst.step env input).1.vrouter = next at hearing backup ⊢
  generalize (inst.step env input).2 = effects at hearing
  cases hearing with
  | stopped init => exact absurd init started
  | outranked master => simp [master] at backup
  | hearsLeaving _ leaving => simp [patience, leaving]
  | defers _ positive => simp [patience, positive]
  | preempts => simp [masterFsm] at backup
  | answers master => simp [master] at backup
  | yields _ _ _ positive => simp [patience, positive, backupFsm]

theorem silent_master (master : inst.vrouter.fsm.state = .master)
    (unheard : inst.vrouter.heard env input = none)
    (unnotified : ∀ event, input ≠ .notify event) :
    (inst.step env input).1.vrouter.fsm.state = .master := by
  obtain ⟨signal, means, stepped⟩ := step_simulates inst env input
  rw [stepped, master, Candidate.master_stays_iff]
  cases means with
  | stop fires =>
      cases fires
      exact absurd rfl (unnotified .shutdown)
  | hear hears =>
      rw [unheard] at hears
      contradiction
  | start => simp
  | expire => simp
  | quiet => simp

end Instance

namespace Session

variable {fromStr : String → Option IpNet} {conf : Config} {host : Host} {session : Session}
  {now setAt deadline : Instant} {move : Move}

def Running (session : Session) : Prop := session.phase = .serving true false

/-- The call handles neither `Shutdown` nor an advertisement that passes every check. -/
def Silent (env : Env) (session : Session) (move : Move) : Prop :=
  ∀ input, session.brings move = some input →
    input ≠ .notify .shutdown ∧ session.inst.vrouter.heard env input = none

/-- A running Backup whose timer waits until this time. -/
structure Awaits (deadline : Instant) (session : Session) : Prop where
  running : session.Running
  state : session.inst.vrouter.fsm.state = .backup
  waiting : session.inst.vrouter.fsm.timer.waitingFor = some deadline

theorem Running.serves (running : session.Running) : session.phase.serves = true := by
  rw [Running] at running
  rw [running]
  rfl

theorem Attached.running (attached : session.Attached conf host)
    (serves : session.phase.serves = true) (started : session.inst.vrouter.fsm.state ≠ .init) :
    session.Running := by
  obtain ⟨timer, leaving, phase⟩ := serving_of_serves serves
  unfold Attached at attached
  rw [phase] at attached
  obtain ⟨rfl, left, _⟩ := attached
  cases leaving with
  | false => exact phase
  | true => exact absurd (left.mp rfl) started

theorem Running.step_serves (running : session.Running) (host : Host) (now setAt : Instant)
    (move : Move) : (session.step host now setAt move).2.1.phase.serves = true := by
  rw [Running] at running
  cases move with
  | advance =>
      simp only [step, advance, running]
      rfl
  | handle input =>
      simp only [step, running]
      split_ifs <;> first | rfl | exact congrArg Phase.serves running
  | finish =>
      simp only [step, running]
      rfl

theorem silent_tick (session : Session) (env : Env) : session.Silent env (.handle .tick) := by
  intro input brought
  obtain rfl := brings_handle brought
  exact ⟨by simp, rfl⟩

theorem Running.handles (running : session.Running) {input : Input}
    (brought : session.brings move = some input) : move = .handle input := by
  rw [Running] at running
  cases move with
  | advance =>
      simp only [brings, running] at brought
      contradiction
  | handle moved => rw [brings_handle brought]
  | finish => contradiction

theorem Running.unnotified (running : session.Running) {input : Input}
    (brought : session.brings move = some input) (unstopped : input ≠ .notify .shutdown)
    (event : Event) : input ≠ .notify event := by
  obtain rfl := running.handles brought
  rw [Running] at running
  simp only [brings, running] at brought
  split_ifs at brought with task
  rcases task with ⟨stop, _⟩ | task
  · exact absurd stop unstopped
  · exact Input.not_notify_of_task task event

theorem Running.handles_tick (running : session.Running) :
    session.brings (.handle .tick) = some .tick :=
  brings_served running (.inr rfl)

theorem Awaits.step (awaits : session.Awaits deadline) (ready : Ready fromStr conf host session)
    (attached : session.Attached conf host)
    (silent : session.Silent (host.env now setAt) move) :
    let after := (session.step host now setAt move).2.1
    (move = .handle .tick ∧ deadline < now →
        after.Running ∧ after.inst.vrouter.fsm.state = .master) ∧
      (¬ (move = .handle .tick ∧ deadline < now) → after.Awaits deadline) := by
  intro after
  have serves := awaits.running.serves
  have backup := awaits.state
  have kept : after.Attached conf _ := ready.attached_step attached now setAt move
  have running (started : after.inst.vrouter.fsm.state ≠ .init) : after.Running :=
    kept.running (awaits.running.step_serves host now setAt move) started
  have type : session.inst.vrouter.fsm.timer.tType = .masterDown := by
    have matched := ready.matched
    unfold VirtualRouterMachine.Matched at matched
    rw [backup] at matched
    exact matched.1
  obtain ⟨link, present⟩ := Option.isSome_iff_exists.mp
    (attached.linked serves (by simp [backup]) .v4 _ rfl)
  have found := host.get_interface_env now setAt session.inst.vrouter.macVlanInterfaceV4
  rw [present] at found
  obtain ⟨mac, shown, _⟩ := ready.sees (.inr serves) now setAt .v4 _ _ rfl found
  have handled {input : Input} (brought : session.brings move = some input) :=
    Instance.silent_backup ready.sound backup type awaits.waiting (silent input brought).2
      (awaits.running.unnotified brought (silent input brought).1) found shown
  constructor
  · rintro ⟨rfl, late⟩
    have master : after.inst.vrouter.fsm.state = .master := by
      have brought := awaits.running.handles_tick
      rw [show after.inst = _ from step_inst brought host now setAt]
      exact (handled brought).1 ⟨rfl, late⟩
    exact ⟨running (by simp [master]), master⟩
  · intro early
    have same : after.inst.vrouter = session.inst.vrouter := by
      have stepped := (step_underway (.inl serves) host now setAt move).2
      cases brought : session.brings move with
      | none =>
          rw [brought] at stepped
          exact congrArg Instance.vrouter stepped
      | some input =>
          rw [brought] at stepped
          rw [show after.inst = _ from stepped]
          apply (handled brought).2
          rintro ⟨rfl, late⟩
          apply early
          exact ⟨awaits.running.handles brought, late⟩
    refine ⟨running ?_, ?_, ?_⟩
    · simp [same, backup]
    · rw [same, backup]
    · rw [same, awaits.waiting]

theorem Ready.awaits_after_advert (ready : Ready fromStr conf host session)
    (attached : session.Attached conf host) (engaged : session.Engaged) {input : Input}
    (brought : session.brings (.handle input) = some input) {packet : VrrpPacket}
    (hears : session.inst.vrouter.heard (host.env now setAt) input = some packet)
    (backup : (session.step host now setAt (.handle input)).2.1.inst.vrouter.fsm.state =
      .backup) :
    (session.step host now setAt (.handle input)).2.1.Awaits
      (setAt + session.inst.vrouter.patience packet) := by
  obtain ⟨serves, started⟩ := engaged
  have kept := ready.attached_step attached now setAt (.handle input)
  have running := attached.running serves started
  refine ⟨kept.running (running.step_serves host now setAt _) (by simp [backup]), backup, ?_⟩
  rw [step_inst brought host now setAt] at backup ⊢
  exact Instance.waits_after_advert ready.sound started hears backup

theorem Running.stays_master (running : session.Running)
    (master : session.inst.vrouter.fsm.state = .master) (ready : Ready fromStr conf host session)
    (attached : session.Attached conf host)
    (silent : session.Silent (host.env now setAt) move) :
    let after := (session.step host now setAt move).2.1
    after.Running ∧ after.inst.vrouter.fsm.state = .master := by
  intro after
  have state : after.inst.vrouter.fsm.state = .master := by
    have stepped := (step_underway (.inl running.serves) host now setAt move).2
    cases brought : session.brings move with
    | none =>
        rw [brought] at stepped
        rw [show after.inst = _ from stepped]
        exact master
    | some input =>
        rw [brought] at stepped
        rw [show after.inst = _ from stepped]
        exact Instance.silent_master master (silent input brought).2
          (running.unnotified brought (silent input brought).1)
  refine ⟨?_, state⟩
  have kept : after.Attached conf _ := ready.attached_step attached now setAt move
  exact kept.running (running.step_serves host now setAt move) (by simp [state])

end Session

namespace Daemon

variable {Name : Type*}

/-- The instance handles neither `Shutdown` nor an advertisement that passes every check. -/
def Silence (name : Name) (daemon : Daemon Name) : Occurrence Name → Prop
  | .run mover now setAt move => mover = name →
      (daemon.sessions name).Silent (daemon.host.env now setAt) move
  | .autoconfigure _ _ => True

def TicksAfter (name : Name) (deadline : Instant) : Occurrence Name → Prop
  | .run mover now _ move => mover = name ∧ move = .handle .tick ∧ deadline < now
  | .autoconfigure _ _ => False

variable [DecidableEq Name] {fromStr : String → Option IpNet} {conf : Name → Config}
  {name : Name} {daemon : Daemon Name} {deadline : Instant}

theorem session_step (daemon : Daemon Name) (name mover : Name) (now setAt : Instant)
    (move : Move) :
    (machine.step daemon (.run mover now setAt move)).1.sessions name =
      if mover = name then ((daemon.sessions name).step daemon.host now setAt move).2.1
      else daemon.sessions name := by
  by_cases same : mover = name
  · subst same
    simp [machine]
  · simp [machine, same, Function.update_of_ne (Ne.symm same)]

theorem awaits_step (ready : Ready fromStr conf daemon)
    (attached : (daemon.sessions name).Attached (conf name) daemon.host)
    (awaits : (daemon.sessions name).Awaits deadline) {occurrence : Occurrence Name}
    (silent : Silence name daemon occurrence) :
    let session := (machine.step daemon occurrence).1.sessions name
    (TicksAfter name deadline occurrence →
        session.Running ∧ session.inst.vrouter.fsm.state = .master) ∧
      (¬ TicksAfter name deadline occurrence → session.Awaits deadline) := by
  cases occurrence with
  | autoconfigure iface net => exact ⟨False.elim, fun _ => awaits⟩
  | run mover now setAt move =>
      intro session
      have stepped := session_step daemon name mover now setAt move
      split_ifs at stepped with same
      · subst same
        have own := awaits.step (ready mover) attached (silent rfl)
        rw [show session = _ from stepped]
        refine ⟨fun ticks => own.1 ticks.2, fun waits => own.2 fun late => waits ⟨rfl, late⟩⟩
      · rw [show session = _ from stepped]
        exact ⟨fun ticks => absurd ticks.1 same, fun _ => awaits⟩

theorem master_step (ready : Ready fromStr conf daemon)
    (attached : (daemon.sessions name).Attached (conf name) daemon.host)
    (running : (daemon.sessions name).Running)
    (master : (daemon.sessions name).inst.vrouter.fsm.state = .master)
    {occurrence : Occurrence Name} (silent : Silence name daemon occurrence) :
    let session := (machine.step daemon occurrence).1.sessions name
    session.Running ∧ session.inst.vrouter.fsm.state = .master := by
  cases occurrence with
  | autoconfigure iface net => exact ⟨running, master⟩
  | run mover now setAt move =>
      intro session
      have stepped := session_step daemon name mover now setAt move
      split_ifs at stepped with same
      · subst same
        rw [show session = _ from stepped]
        exact running.stays_master master (ready mover) attached (silent rfl)
      · rw [show session = _ from stepped]
        exact ⟨running, master⟩

variable (alone : ∀ other, other ≠ name → (conf other).vrid ≠ (conf name).vrid)

include alone

theorem master_silence {silence : List (Occurrence Name)} (ready : Ready fromStr conf daemon)
    (attached : (daemon.sessions name).Attached (conf name) daemon.host)
    (running : (daemon.sessions name).Running)
    (master : (daemon.sessions name).inst.vrouter.fsm.state = .master)
    (silent : machine.AllSteps (Silence name) daemon silence) :
    let session := (machine.after daemon silence).sessions name
    session.Running ∧ session.inst.vrouter.fsm.state = .master := by
  induction silence generalizing daemon with
  | nil => exact ⟨running, master⟩
  | cons occurrence rest ih =>
      have next := attached_step alone daemon occurrence ⟨ready, attached⟩
      have stays := master_step ready attached running master silent.1
      exact ih next.1 next.2 stays.1 stays.2 silent.2

/-- A Backup that is left to its timer is Master after a run exactly if a tick of it has
read the clock after its deadline, and waits on otherwise. -/
theorem awaits_silence {silence : List (Occurrence Name)} (ready : Ready fromStr conf daemon)
    (attached : (daemon.sessions name).Attached (conf name) daemon.host)
    (awaits : (daemon.sessions name).Awaits deadline)
    (silent : machine.AllSteps (Silence name) daemon silence) :
    let session := (machine.after daemon silence).sessions name
    ((∃ occurrence ∈ silence, TicksAfter name deadline occurrence) →
        session.Running ∧ session.inst.vrouter.fsm.state = .master) ∧
      ((∀ occurrence ∈ silence, ¬ TicksAfter name deadline occurrence) →
        session.Awaits deadline) := by
  induction silence generalizing daemon with
  | nil => exact ⟨by simp, fun _ => awaits⟩
  | cons occurrence rest ih =>
      have next := attached_step alone daemon occurrence ⟨ready, attached⟩
      have stepped := awaits_step ready attached awaits silent.1
      by_cases ticks : TicksAfter name deadline occurrence
      · have master := stepped.1 ticks
        have stays := master_silence alone next.1 next.2 master.1 master.2 silent.2
        refine ⟨fun _ => stays, ?_⟩
        exact fun never => absurd ticks (never occurrence List.mem_cons_self)
      · have later := ih next.1 next.2 (stepped.2 ticks) silent.2
        constructor
        · rintro ⟨found, member, late⟩
          apply later.1
          rcases List.mem_cons.mp member with rfl | tail
          · exact absurd late ticks
          · exact ⟨found, tail, late⟩
        · exact fun never => later.2 fun found tail => never found (List.mem_cons_of_mem _ tail)

omit alone

/-- What a look at the timer reads: the clock, and the clock when it sets the timer. -/
def looks (name : Name) : Occurrence Name → List (Instant × Instant)
  | .run mover now setAt move =>
      if mover = name ∧ move = .handle .tick then [(now, setAt)] else []
  | .autoconfigure _ _ => []

def tickReadings (name : Name) (occurrences : List (Occurrence Name)) :
    List (Instant × Instant) :=
  occurrences.flatMap (looks name)

theorem ticks_after_iff {occurrences : List (Occurrence Name)} :
    (∃ occurrence ∈ occurrences, TicksAfter name deadline occurrence) ↔
      ∃ reading ∈ tickReadings name occurrences, deadline < reading.1 := by
  constructor
  · rintro ⟨occurrence, member, ticks⟩
    cases occurrence with
    | autoconfigure iface net => exact ticks.elim
    | run mover now setAt move =>
        obtain ⟨same, tick, late⟩ := ticks
        exact ⟨(now, setAt), List.mem_flatMap.mpr ⟨_, member, by simp [looks, same, tick]⟩, late⟩
  · rintro ⟨reading, member, late⟩
    obtain ⟨occurrence, listed, reads⟩ := List.mem_flatMap.mp member
    cases occurrence with
    | autoconfigure iface net => contradiction
    | run mover now setAt move =>
        simp only [looks] at reads
        split_ifs at reads with ticks
        · rw [List.mem_singleton.mp reads] at late
          exact ⟨_, listed, ticks.1, ticks.2, late⟩
        · contradiction

end Daemon

namespace Daemon

variable {Name : Type*} [DecidableEq Name] {fromStr : String → Option IpNet}
  {conf : Name → Config} {name : Name}

/-- A run of a host in which a router accepts an advertisement that leaves it Backup, then
no other one, and is not shut down. -/
structure Outage (fromStr : String → Option IpNet) (conf : Name → Config) (name : Name) where
  host : Host
  past : List (Occurrence Name)
  now : Instant
  heardAt : Instant
  input : Input
  packet : VrrpPacket
  silence : List (Occurrence Name)
  alone : ∀ other, other ≠ name → (conf other).vrid ≠ (conf name).vrid
  engaged : ((machine.after (start fromStr conf host) past).sessions name).Engaged
  brought : ((machine.after (start fromStr conf host) past).sessions name).brings
    (.handle input) = some input
  hears : ((machine.after (start fromStr conf host) past).sessions name).inst.vrouter.heard
    ((machine.after (start fromStr conf host) past).host.env now heardAt) input = some packet
  backup : ((machine.step (machine.after (start fromStr conf host) past)
    (.run name now heardAt (.handle input))).1.sessions name).inst.vrouter.fsm.state = .backup
  silent : machine.AllSteps (Silence name)
    (machine.step (machine.after (start fromStr conf host) past)
      (.run name now heardAt (.handle input))).1 silence

namespace Outage

variable (outage : Outage fromStr conf name)

def run : List (Occurrence Name) :=
  outage.past ++ .run name outage.now outage.heardAt (.handle outage.input) :: outage.silence

def last : Daemon Name := machine.after (start fromStr conf outage.host) outage.run

/-- The time of the advertisement and the master-down interval, or the skew time after an
advertisement of a Master that leaves. -/
def deadline : Instant :=
  outage.heardAt + (configToVr fromStr (conf name)).patience outage.packet

def Over : Prop := ∃ reading ∈ tickReadings name outage.silence, outage.deadline < reading.1

instance : Decidable outage.Over :=
  inferInstanceAs (Decidable (∃ reading ∈ tickReadings name outage.silence,
    outage.deadline < reading.1))

theorem state :
    (outage.Over → (outage.last.sessions name).Running ∧
        (outage.last.sessions name).inst.vrouter.fsm.state = .master) ∧
      (¬ outage.Over → (outage.last.sessions name).Awaits outage.deadline) := by
  obtain ⟨ready, attached⟩ := attached_after outage.alone outage.host outage.past
  have next := attached_step outage.alone _
    (.run name outage.now outage.heardAt (.handle outage.input)) ⟨ready, attached⟩
  obtain ⟨parent, primaryIp, _, runs⟩ := (ready name).prepares (.inr outage.engaged.1)
  obtain ⟨fsm, config⟩ := runs.config
  have stepped := session_step (machine.after (start fromStr conf outage.host) outage.past) name
    name outage.now outage.heardAt (.handle outage.input)
  rw [if_pos rfl] at stepped
  have backup := outage.backup
  rw [stepped] at backup
  have awaits := (ready name).awaits_after_advert attached outage.engaged outage.brought
    outage.hears backup
  have patience : ((machine.after (start fromStr conf outage.host) outage.past).sessions
      name).inst.vrouter.patience outage.packet =
        (configToVr fromStr (conf name)).patience outage.packet := by
    rw [config]
    rfl
  rw [patience, ← stepped] at awaits
  have waited := awaits_silence outage.alone next.1 next.2 awaits outage.silent
  rw [ticks_after_iff] at waited
  unfold last run
  rw [machine.after_append, machine.after_cons]
  refine ⟨waited.1, fun early => waited.2 ?_⟩
  intro occurrence member ticks
  exact early (ticks_after_iff.mp ⟨occurrence, member, ticks⟩)

/-- After the last advertisement that it accepts an instance is Master, and its host has
the virtual addresses, exactly from the first of its ticks that reads the clock after
the deadline. -/
theorem replaced_iff {configs : List Config}
    (accepted : validateConfigs fromStr configs = .ok ()) (member : conf name ∈ configs)
    (single : (conf name).version = .v3 →
      machine.AllSteps (Single fromStr conf name) (start fromStr conf outage.host) outage.run) :
    let session := outage.last.sessions name
    (session.inst.vrouter.fsm.state = .master ↔ outage.Over) ∧
      (session.inst.vrouter.fsm.state = .backup ↔ ¬ outage.Over) ∧
      ∀ family iface, session.inst.vrouter.macVlan family = some iface →
        ∀ net ∈ session.inst.vrouter.nets family,
          (outage.last.host.Holds iface net ↔ outage.Over) := by
  intro session
  obtain ⟨replaced, waits⟩ := outage.state
  have master : session.inst.vrouter.fsm.state = .master ↔ outage.Over := by
    constructor
    · intro state
      by_contra early
      have backup := (waits early).state
      rw [show outage.last.sessions name = session from rfl, state] at backup
      contradiction
    · exact fun late => (replaced late).2
  have serves : session.phase.serves = true := by
    by_cases late : outage.Over
    · exact (replaced late).1.serves
    · exact (waits late).running.serves
  refine ⟨master, ?_, ?_⟩
  · constructor
    · intro state late
      have promoted := master.mpr late
      rw [state] at promoted
      contradiction
    · exact fun early => (waits early).state
  · intro family iface side net configured
    have shown := (started_instance_shown accepted member outage.alone outage.host single serves).1
    exact (shown family iface side net configured).trans master

/-- When its ticks come once a second, the instance is Master at the latest by a tick
that is due within a second of the deadline. -/
theorem replaced_within_a_second {phase : ℚ} (early : phase ≤ outage.deadline + 1)
    (onTime : ∀ (tick : ℕ) (happened : tick < (tickReadings name outage.silence).length),
      phase + tick ≤ (tickReadings name outage.silence)[tick].1) :
    ∃ tick : ℕ, phase + tick ≤ outage.deadline + 1 ∧
      (tick < (tickReadings name outage.silence).length →
        (outage.last.sessions name).inst.vrouter.fsm.state = .master) := by
  obtain ⟨tick, first⟩ := exists_first_after phase outage.deadline
  refine ⟨tick, first.within early, ?_⟩
  intro happened
  apply (outage.state.1 _).2
  exact ⟨_, List.getElem_mem happened, first.late.trans_le (onTime tick happened)⟩

end Outage

end Daemon

namespace Sample

/-- A Backup hears its Master for the last time at 5 and ticks four times after that. -/
def outage : Daemon.Outage parseNet (fun _ : Unit => config .v2 100) () where
  host := host
  past := startsAlone
  now := 5
  heardAt := 5
  input := .vrrpV4 (router .v2 200 20).ipv4Advert
  packet := (router .v2 200 20).advertisement (.v4 (router .v2 200 20).ipv4Addrs)
  silence := [.run () 6 6 (.handle .tick), .run () 7 7 (.handle .tick),
    .run () 8 8 (.handle .tick), .run () 9 9 (.handle .tick)]
  alone _ other := absurd rfl other
  engaged := by decide +kernel
  brought := by decide +kernel
  hears := by decide +kernel
  backup := by decide +kernel
  silent := by
    have ticks (session : Session) (env : Env) := session.silent_tick env
    exact ⟨fun _ => ticks _ _, fun _ => ticks _ _, fun _ => ticks _ _, fun _ => ticks _ _, trivial⟩

end Sample

namespace Daemon

theorem Outage.last_tick_replaces :
    (Sample.outage.last.sessions ()).inst.vrouter.fsm.state = .master :=
  (@Outage.replaced_iff Unit _ Sample.parseNet (fun _ : Unit => Sample.config .v2 100) ()
    Sample.outage [Sample.config .v2 100] rfl List.mem_cons_self
    (fun version => nomatch version)).1.mpr (by decide +kernel)

theorem Outage.replaced_in_time :
    ∃ tick : ℕ, (6 : ℚ) + tick ≤ Sample.outage.deadline + 1 ∧
      (tick < (tickReadings () Sample.outage.silence).length →
        (Sample.outage.last.sessions ()).inst.vrouter.fsm.state = .master) :=
  @Outage.replaced_within_a_second Unit _ Sample.parseNet (fun _ : Unit => Sample.config .v2 100)
    () Sample.outage 6 (by decide +kernel) (by decide +kernel)

end Daemon

end Failover
