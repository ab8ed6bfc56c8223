import Failover.Host

/-!
# One call of `run`

`run` prepares the router statement by statement, each of which the other
instances of the host may precede with steps of their own, then hands it to its
tasks and at last notifies `Shutdown`.
-/

namespace Failover

open Library VirtualRouter

set_option autoImplicit false

/-- Where `run` stands. The phases before `serving` name the statement it executes
next. While it serves, `timer` tells whether the timer task still runs, and
`leaving` whether `Shutdown` was notified. -/
inductive Phase where
  | lookup
  | createV4 (parent : NetworkInterface)
  | checkV4 (parent : NetworkInterface)
  | createV6 (parent : NetworkInterface)
  | checkV6 (v6Name : String)
  | startup
  | serving (timer leaving : Bool)
  | ended (result : Outcome NetworkError Unit)
  deriving DecidableEq

namespace Phase

def serves : Phase → Bool
  | serving _ _ => true
  | _ => false

def stoppable : Phase → Bool
  | serving _ leaving => !leaving
  | _ => false

end Phase

structure Session where
  inst : Instance
  phase : Phase
  deriving DecidableEq

/-- The next statement of `run`, one iteration of a task, or the return of `run`. -/
inductive Move where
  | advance
  | handle (input : Input)
  | finish
  deriving DecidableEq

/-- Whether a task that `run` has spawned brings this input. -/
def Input.HasTask (version : VrrpVersion) (timer : Bool) : Input → Bool
  | .notify _ => false
  | .tick => timer
  | .vrrpV4 _ => true
  | .arp _ => true
  | .vrrpV6 _ _ => version = .v3
  | .ndp _ => version = .v3

/-- `timer_process` returns the error of its `notify_mut`. A poisoned lock only
makes it go on. -/
def Instance.timerSurvives (inst : Instance) (env : Env) : Input → Bool
  | .tick => inst.poisoned || (inst.vrouter.timerTick env).result = .ok ()
  | _ => true

namespace Session

def new (vrouter : VirtualRouter) : Session where
  inst := .new vrouter
  phase := .lookup

/-- The statements of `run` that come before its tasks, with `?` as the error. -/
def advance (host : Host) (now setAt : Instant) (session : Session) :
    Except NetworkError (Host × Session × List Effect) :=
  let vrouter := session.inst.vrouter
  match session.phase with
  | .lookup => do
      let parent ← (host.env now setAt).getInterface vrouter.networkInterface
      let primaryIp ← primaryIpv4 parent
      .ok (host, { inst := .new { vrouter with primaryIp }, phase := .createV4 parent }, [])
  | .createV4 parent => do
      let (next, name) ← host.createMacVlan parent.name vrouter.vrid .v4
      .ok (next, { inst := .new { vrouter with macVlanInterfaceV4 := name }
                   phase := .checkV4 parent }, [])
  | .checkV4 parent => do
      let _ ← (host.env now setAt).getInterface vrouter.macVlanInterfaceV4
      .ok (host, { session with
        phase := if vrouter.version = .v3 then .createV6 parent else .startup }, [])
  | .createV6 parent => do
      let (next, v6Name) ← host.createMacVlan parent.name vrouter.vrid .v6
      .ok (next, { inst := .new { vrouter with
                     macVlanInterfaceV6 := some v6Name
                     primaryIpV6 := primaryIpv6 parent }
                   phase := .checkV6 v6Name }, [])
  | .checkV6 v6Name => do
      let _ ← (host.env now setAt).getInterface v6Name
      .ok (host, { session with phase := .startup }, [])
  | .startup =>
      let env := host.env now setAt
      let (inst, effects) := session.inst.step env (.notify .startup)
      .ok (host.performAll effects,
        { inst
          phase := if (vrouter.notifyMut env .startup).result = .ok () then .serving true false
            else .ended .panicked }, effects)
  | .serving _ _ => .ok (host, session, [])
  | .ended _ => .ok (host, session, [])

/-- An iteration of a task, or the notification of `Shutdown`. -/
def serve (host : Host) (now setAt : Instant) (session : Session) (input : Input)
    (phase : Phase) : Host × Session × List Effect :=
  let (inst, effects) := session.inst.step (host.env now setAt) input
  (host.performAll effects, { inst, phase }, effects)

def step (host : Host) (now setAt : Instant) (session : Session) :
    Move → Host × Session × List Effect
  | .advance =>
      match session.advance host now setAt with
      | .ok next => next
      | .error error => (host, { session with phase := .ended (.err error) }, [])
  | .handle input =>
      match session.phase with
      | .serving timer leaving =>
          if input = .notify .shutdown ∧ leaving = false then
            session.serve host now setAt input (.serving timer true)
          else if input.HasTask session.inst.vrouter.version timer then
            session.serve host now setAt input
              (.serving (timer && session.inst.timerSurvives (host.env now setAt) input) leaving)
          else (host, session, [])
      | _ => (host, session, [])
  | .finish =>
      match session.phase with
      | .serving _ true => (host, { session with phase := .ended (.ok ()) }, [])
      | _ => (host, session, [])

def Engaged (session : Session) : Prop :=
  session.phase.serves = true ∧ session.inst.vrouter.fsm.state ≠ .init

/-- `Shutdown` was not notified before, and its notification finds the lock sound. -/
def Stoppable (session : Session) : Prop :=
  session.phase.stoppable = true ∧ session.inst.poisoned = false

instance (session : Session) : Decidable session.Engaged :=
  inferInstanceAs (Decidable (_ ∧ _))

instance (session : Session) : Decidable session.Stoppable :=
  inferInstanceAs (Decidable (_ ∧ _))

theorem Stoppable.serves {session : Session} (stoppable : session.Stoppable) :
    session.phase.serves = true := by
  have stop := stoppable.1
  unfold Phase.stoppable at stop
  split at stop
  · rename_i timer leaving phase
    rw [phase]
    rfl
  · contradiction

/-- What one move can do to the host and to the session. -/
inductive Course (host : Host) (now setAt : Instant) (session : Session) :
    Move → Host → Session → Prop
  | idle {move : Move} : Course host now setAt session move host session
  | ends {move : Move} (result : Outcome NetworkError Unit) :
      Course host now setAt session move host { session with phase := .ended result }
  | lookup {parent : NetworkInterface} (primaryIp : Ipv4Addr) (phase : session.phase = .lookup)
      (found : (host.env now setAt).getInterface session.inst.vrouter.networkInterface =
        .ok parent) :
      Course host now setAt session .advance host
        { inst := .new { session.inst.vrouter with primaryIp }, phase := .createV4 parent }
  | createV4 {parent : NetworkInterface} {next : Host} {name : String}
      (phase : session.phase = .createV4 parent)
      (created : host.createMacVlan parent.name session.inst.vrouter.vrid .v4 =
        .ok (next, name)) :
      Course host now setAt session .advance next
        { inst := .new { session.inst.vrouter with macVlanInterfaceV4 := name }
          phase := .checkV4 parent }
  | checkV4 {parent : NetworkInterface} (phase : session.phase = .checkV4 parent) :
      Course host now setAt session .advance host { session with
        phase := if session.inst.vrouter.version = .v3 then .createV6 parent else .startup }
  | createV6 {parent : NetworkInterface} {next : Host} {v6Name : String}
      (phase : session.phase = .createV6 parent)
      (created : host.createMacVlan parent.name session.inst.vrouter.vrid .v6 =
        .ok (next, v6Name)) :
      Course host now setAt session .advance next
        { inst := .new { session.inst.vrouter with
            macVlanInterfaceV6 := some v6Name
            primaryIpV6 := primaryIpv6 parent }
          phase := .checkV6 v6Name }
  | checkV6 {v6Name : String} (phase : session.phase = .checkV6 v6Name) :
      Course host now setAt session .advance host { session with phase := .startup }
  | startup (phase : session.phase = .startup) :
      Course host now setAt session .advance
        (host.performAll (session.inst.step (host.env now setAt) (.notify .startup)).2)
        { inst := (session.inst.step (host.env now setAt) (.notify .startup)).1
          phase :=
            if (session.inst.vrouter.notifyMut (host.env now setAt) .startup).result = .ok () then
              .serving true false
            else .ended .panicked }
  | serves {input : Input} {timer leaving : Bool} (timerNext : Bool)
      (phase : session.phase = .serving timer leaving)
      (task : input.HasTask session.inst.vrouter.version timer = true) :
      Course host now setAt session (.handle input)
        (host.performAll (session.inst.step (host.env now setAt) input).2)
        { inst := (session.inst.step (host.env now setAt) input).1
          phase := .serving timerNext leaving }
  | stops {timer : Bool} (phase : session.phase = .serving timer false) :
      Course host now setAt session (.handle (.notify .shutdown))
        (host.performAll (session.inst.step (host.env now setAt) (.notify .shutdown)).2)
        { inst := (session.inst.step (host.env now setAt) (.notify .shutdown)).1
          phase := .serving timer true }

theorem advance_course {host next : Host} {now setAt : Instant} {session after : Session}
    {effects : List Effect}
    (advanced : session.advance host now setAt = .ok (next, after, effects)) :
    Course host now setAt session .advance next after := by
  unfold advance at advanced
  cases phase : session.phase with
  | lookup =>
      simp only [phase] at advanced
      rcases except_bind_ok advanced with ⟨parent, found, rest⟩
      rcases except_bind_ok rest with ⟨primaryIp, _, result⟩
      cases result
      exact .lookup primaryIp phase found
  | createV4 parent =>
      simp only [phase] at advanced
      rcases except_bind_ok advanced with ⟨⟨linked, name⟩, created, result⟩
      cases result
      exact .createV4 phase created
  | checkV4 parent =>
      simp only [phase] at advanced
      rcases except_bind_ok advanced with ⟨interface, _, result⟩
      cases result
      exact .checkV4 phase
  | createV6 parent =>
      simp only [phase] at advanced
      rcases except_bind_ok advanced with ⟨⟨linked, v6Name⟩, created, result⟩
      cases result
      exact .createV6 phase created
  | checkV6 v6Name =>
      simp only [phase] at advanced
      rcases except_bind_ok advanced with ⟨interface, _, result⟩
      cases result
      exact .checkV6 phase
  | startup =>
      simp only [phase] at advanced
      cases advanced
      exact .startup phase
  | serving timer leaving =>
      simp only [phase] at advanced
      cases advanced
      exact .idle
  | ended result =>
      simp only [phase] at advanced
      cases advanced
      exact .idle

theorem step_course (host : Host) (now setAt : Instant) (session : Session) (move : Move) :
    Course host now setAt session move (session.step host now setAt move).1
      (session.step host now setAt move).2.1 := by
  cases move with
  | advance =>
      simp only [step]
      cases advanced : session.advance host now setAt with
      | ok next => exact advance_course advanced
      | error error => exact .ends (.err error)
  | handle input =>
      simp only [step]
      split
      · rename_i timer leaving phase
        split_ifs with stop task
        · rcases stop with ⟨rfl, rfl⟩
          exact .stops phase
        · exact .serves _ phase task
        · exact .idle
      · exact .idle
  | finish =>
      simp only [step]
      split
      · exact .ends (.ok ())
      · exact .idle

/-- The router as `run` hands it to its tasks, after some of their steps. -/
def Prepares (built : VirtualRouter) (inst : Instance) : Prop :=
  ∃ parent primaryIp, parent.name = built.networkInterface ∧
    Instance.RunOf (built.prepare parent primaryIp) inst

/-- What `run` has made so far of the router it was given. -/
def Follows (built : VirtualRouter) (session : Session) : Prop :=
  match session.phase with
  | .lookup => session.inst = .new built
  | .createV4 parent => parent.name = built.networkInterface ∧
      ∃ primaryIp, session.inst = .new { built with primaryIp }
  | .checkV4 parent => parent.name = built.networkInterface ∧
      ∃ primaryIp, session.inst = .new { built with
        primaryIp
        macVlanInterfaceV4 := macVlanName parent.name built.vrid .v4 }
  | .createV6 parent => parent.name = built.networkInterface ∧ built.version = .v3 ∧
      ∃ primaryIp, session.inst = .new { built with
        primaryIp
        macVlanInterfaceV4 := macVlanName parent.name built.vrid .v4 }
  | .checkV6 _ => Prepares built session.inst
  | .startup => Prepares built session.inst
  | .serving _ _ => Prepares built session.inst
  | .ended _ => True

theorem prepares_step {built : VirtualRouter} {inst : Instance} (prepares : Prepares built inst)
    (env : Env) (input : Input) : Prepares built (inst.step env input).1 := by
  rcases prepares with ⟨parent, primaryIp, name, runs⟩
  exact ⟨parent, primaryIp, name, Instance.run_of_step runs env input⟩

theorem prepares_v4 {built : VirtualRouter} {inst : Instance} (prepares : Prepares built inst) :
    inst.vrouter.macVlanInterfaceV4 = macVlanName built.networkInterface built.vrid .v4 := by
  rcases prepares with ⟨parent, primaryIp, name, runs⟩
  rcases runs.config with ⟨fsm, config⟩
  rw [config, ← name]
  rfl

theorem course_follows {host next : Host} {now setAt : Instant} {session after : Session}
    {move : Move} {built : VirtualRouter} (course : Course host now setAt session move next after)
    (follows : session.Follows built) : after.Follows built := by
  cases course with
  | idle => exact follows
  | ends => trivial
  | lookup primaryIp phase found =>
      simp only [Follows, phase] at follows
      rw [follows] at found
      refine ⟨(get_interface_ok found).2, primaryIp, ?_⟩
      rw [follows]
      rfl
  | createV4 phase created =>
      simp only [Follows, phase] at follows
      rcases follows with ⟨name, primaryIp, inst⟩
      rcases Host.create_mac_vlan_ok created with ⟨rfl, _, _⟩
      refine ⟨name, primaryIp, ?_⟩
      rw [inst]
      rfl
  | checkV4 phase =>
      rename_i parent
      simp only [Follows, phase] at follows
      rcases follows with ⟨name, primaryIp, inst⟩
      have version : session.inst.vrouter.version = built.version := by rw [inst]; rfl
      cases built_version : built.version with
      | v3 =>
          rw [if_pos (version.trans built_version)]
          exact ⟨name, built_version, primaryIp, inst⟩
      | v2 =>
          rw [if_neg (by simp [version, built_version])]
          refine ⟨parent, primaryIp, name, ?_⟩
          rw [inst]
          have prepared : built.prepare parent primaryIp = { built with
              primaryIp
              macVlanInterfaceV4 := macVlanName parent.name built.vrid .v4 } := by
            simp [prepare, built_version]
          rw [prepared]
          exact Instance.run_of_new _
  | createV6 phase created =>
      rename_i parent v6Name
      simp only [Follows, phase] at follows
      rcases follows with ⟨name, version, primaryIp, inst⟩
      rcases Host.create_mac_vlan_ok created with ⟨rfl, _, _⟩
      refine ⟨parent, primaryIp, name, ?_⟩
      have prepared : built.prepare parent primaryIp =
          { session.inst.vrouter with
            macVlanInterfaceV6 :=
              some (macVlanName parent.name session.inst.vrouter.vrid .v6)
            primaryIpV6 := primaryIpv6 parent } := by
        simp [prepare, version, inst, Instance.new]
      rw [prepared]
      exact Instance.run_of_new _
  | checkV6 phase =>
      simp only [Follows, phase] at follows
      exact follows
  | startup phase =>
      simp only [Follows, phase] at follows
      have prepares := prepares_step follows (host.env now setAt) (.notify .startup)
      unfold Follows
      split_ifs
      · exact prepares
      · trivial
  | serves timerNext phase task =>
      rename_i input timer leaving
      simp only [Follows, phase] at follows
      exact prepares_step follows (host.env now setAt) input
  | stops phase =>
      simp only [Follows, phase] at follows
      exact prepares_step follows (host.env now setAt) (.notify .shutdown)

end Session

end Failover
