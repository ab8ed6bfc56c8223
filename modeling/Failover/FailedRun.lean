import Failover.AddressEdits
import Failover.Library.Persistence
import Failover.Teardown

/-!
# A call of `run` that fails

`run` takes what it needs one after the other and gives it back after its tasks
only. Each statement may fail, for a reason of the host or for one that the model
does not show; an error before the tasks are awaited leaves at once with `?`.
-/

namespace Failover

open Library VirtualRouter

set_option autoImplicit false

namespace Phase

/-- `run` has not come to the wait for its tasks, from where on it returns `Ok`. -/
def isOpen : Phase → Bool
  | serving _ leaving => !leaving
  | ended _ => false
  | _ => true

/-- The phase after the next statement has failed. A failed `Startup` panics, and what
can fail while the tasks run is the installation of the signal handler. -/
def failed (error : NetworkError) : Phase → Phase
  | startup => ended .panicked
  | serving _ false => ended (.err .signalHandler)
  | serving timer true => serving timer true
  | ended result => ended result
  | _ => ended (.err error)

end Phase

abbrev Call := Host × Session

structure Attempt where
  now : Instant
  setAt : Instant
  /-- The next move, or the error that the next statement fails with. -/
  move : Except NetworkError Move

namespace Call

def machine : Machine Call Attempt Effect where
  step call attempt :=
    match attempt.move with
    | .ok move =>
        let (host, session, effects) := call.2.step call.1 attempt.now attempt.setAt move
        ((host, session), effects)
    | .error error => ((call.1, { call.2 with phase := call.2.phase.failed error }), [])

def brings (call : Call) (attempt : Attempt) : Option Input :=
  match attempt.move with
  | .ok move => call.2.brings move
  | .error _ => none

theorem closed_step (call : Call) (attempt : Attempt) (closed : call.2.phase.isOpen = false) :
    (machine.step call attempt).1.2.phase.isOpen = false := by
  unfold machine
  rcases attempt with ⟨now, setAt, move⟩
  cases move with
  | error error =>
      cases phase : call.2.phase with
      | serving timer leaving =>
          cases leaving with
          | true => simp [phase, Phase.failed, Phase.isOpen]
          | false => simp [phase, Phase.isOpen] at closed
      | ended result => simp [phase, Phase.failed, Phase.isOpen]
      | _ => simp [phase, Phase.isOpen] at closed
  | ok move =>
      have course := call.2.step_course call.1 now setAt move
      simp only
      generalize (call.2.step call.1 now setAt move).1 = host at course ⊢
      generalize (call.2.step call.1 now setAt move).2.1 = session at course ⊢
      cases course with
      | idle => exact closed
      | ends => rfl
      | serves timerNext phase => simpa [phase, Phase.isOpen] using closed
      | stops => rfl
      | lookup _ phase => simp [phase, Phase.isOpen] at closed
      | createV4 phase => simp [phase, Phase.isOpen] at closed
      | checkV4 phase => simp [phase, Phase.isOpen] at closed
      | createV6 phase => simp [phase, Phase.isOpen] at closed
      | checkV6 phase => simp [phase, Phase.isOpen] at closed
      | startup phase => simp [phase, Phase.isOpen] at closed

theorem move_of_open {call : Call} {attempt : Attempt}
    (opened : (machine.step call attempt).1.2.phase.isOpen = true) :
    ∃ move, attempt.move = .ok move := by
  rcases attempt with ⟨now, setAt, move⟩
  cases move with
  | ok move => exact ⟨move, rfl⟩
  | error error =>
      simp only [machine] at opened
      cases phase : call.2.phase with
      | serving timer leaving => cases leaving <;> simp [phase, Phase.failed, Phase.isOpen] at opened
      | _ => simp [phase, Phase.failed, Phase.isOpen] at opened

theorem brings_of_open {call : Call} {attempt : Attempt}
    (opened : (machine.step call attempt).1.2.phase.isOpen = true) {input : Input}
    (brought : call.brings attempt = some input) : input ≠ .notify .shutdown := by
  intro same
  subst same
  rcases move_of_open opened with ⟨move, same⟩
  simp only [brings, same] at brought
  simp only [machine, same] at opened
  cases move with
  | advance =>
      simp only [Session.brings] at brought
      split at brought <;> simp at brought
  | finish => contradiction
  | handle moved =>
      simp only [Session.brings] at brought
      split at brought
      · rename_i timer leaving phase
        split_ifs at brought with task
        cases brought
        rcases task with ⟨_, first⟩ | served
        · simp [Session.step, phase, first, Session.serve, Phase.isOpen] at opened
        · contradiction
      · contradiction

end Call

def Config.macVlan (conf : Config) : AddressFamily → Option String
  | .v4 => some (macVlanName conf.interfaceName conf.vrid .v4)
  | .v6 => match conf.version with
    | .v3 => some (macVlanName conf.interfaceName conf.vrid .v6)
    | .v2 => none

theorem Config.mac_vlan_injective {conf : Config} {left right : AddressFamily} {name : String}
    (leftLink : conf.macVlan left = some name) (rightLink : conf.macVlan right = some name) :
    left = right := by
  have named {family : AddressFamily} (link : conf.macVlan family = some name) :
      name = macVlanName conf.interfaceName conf.vrid family := by
    cases family with
    | v4 => exact (Option.some.inj link).symm
    | v6 => cases version : conf.version <;> simp_all [macVlan]
  exact mac_vlan_name_family ((named leftLink).symm.trans (named rightLink))

/-- The mac-vlans that `run` has made or reused when it comes to this phase. -/
def Phase.made (conf : Config) : Phase → List String
  | .lookup => []
  | .createV4 _ => []
  | .checkV4 _ => (conf.macVlan .v4).toList
  | .createV6 _ => (conf.macVlan .v4).toList
  | .ended _ => []
  | _ => (conf.macVlan .v4).toList ++ (conf.macVlan .v6).toList

variable {fromStr : String → Option IpNet} {conf : Config} {origin : Host} {call : Call}
  {attempt : Attempt}

theorem Session.Prepares.mac_vlan {inst : Instance}
    (prepares : Session.Prepares (configToVr fromStr conf) inst) (family : AddressFamily) :
    inst.vrouter.macVlan family = conf.macVlan family ∧
      inst.vrouter.nets family = (configToVr fromStr conf).nets family := by
  rcases prepares with ⟨parent, primaryIp, name, runs⟩
  rcases runs.config with ⟨fsm, config⟩
  have parentName : parent.name = conf.interfaceName := name
  rw [config]
  cases family with
  | v4 => exact ⟨by rw [Config.macVlan, ← parentName]; rfl, rfl⟩
  | v6 =>
      refine ⟨?_, rfl⟩
      cases version : conf.version <;>
        simp [VirtualRouter.macVlan, Config.macVlan, withFsm, prepare, configToVr,
          VirtualRouter.new, version, parentName]

namespace Call

/-- What `run` has changed on the host it found, up to the start of its router. -/
structure Progress (fromStr : String → Option IpNet) (conf : Config) (origin : Host)
    (call : Call) : Prop where
  follows : call.2.Follows (configToVr fromStr conf)
  links : ∀ name, call.1.Has name ↔ origin.Has name ∨ name ∈ call.2.phase.made conf
  addresses : call.2.phase.serves = false → ∀ name net,
    call.1.Holds name net ↔ origin.Holds name net

theorem Progress.created (progress : Progress fromStr conf origin call)
    {parent : NetworkInterface} {next : Host} {name : String} {family : AddressFamily}
    (created : call.1.createMacVlan parent.name call.2.inst.vrouter.vrid family = .ok (next, name))
    (parentName : parent.name = conf.interfaceName) (vrid : call.2.inst.vrouter.vrid = conf.vrid)
    (own : conf.macVlan family = some (macVlanName conf.interfaceName conf.vrid family))
    (quiet : call.2.phase.serves = false) (other : String) :
    (next.Has other ↔
        origin.Has other ∨ other ∈ call.2.phase.made conf ++ (conf.macVlan family).toList) ∧
      ∀ net, next.Holds other net ↔ origin.Holds other net := by
  have made := Host.create_mac_vlan_holds created other
  have name := (Host.create_mac_vlan_ok created).1
  rw [parentName, vrid] at name
  constructor
  · rw [made.1, progress.links, own, name, or_assoc]
    simp
  · exact fun net => (made.2 net).trans (progress.addresses quiet other net)

theorem progress_step (progress : Progress fromStr conf origin call)
    (opened : (machine.step call attempt).1.2.phase.isOpen = true) :
    Progress fromStr conf origin (machine.step call attempt).1 := by
  have quiet {input : Input} (brought : call.brings attempt = some input) :=
    brings_of_open opened brought
  rcases move_of_open opened with ⟨move, same⟩
  simp only [machine, same] at opened ⊢
  simp only [brings, same] at quiet
  have course := call.2.step_course call.1 attempt.now attempt.setAt move
  generalize (call.2.step call.1 attempt.now attempt.setAt move).1 = host at course opened ⊢
  generalize (call.2.step call.1 attempt.now attempt.setAt move).2.1 = session at course opened ⊢
  have followed := progress.follows
  have follows := Session.course_follows course progress.follows
  cases course with
  | idle => exact progress
  | ends => contradiction
  | lookup primaryIp phase =>
      have links := progress.links
      have addresses := progress.addresses
      simp only [phase, Phase.made, Phase.serves] at links addresses
      exact ⟨follows, links, fun _ => addresses trivial⟩
  | createV4 phase created =>
      simp only [Session.Follows, phase] at followed
      rcases followed with ⟨parentName, primaryIp, inst⟩
      have result := progress.created created parentName (by rw [inst]; rfl) rfl
        (by rw [phase]; rfl)
      simp only [phase, Phase.made, List.nil_append] at result
      exact ⟨follows, fun name => (result name).1, fun _ name => (result name).2⟩
  | checkV4 phase =>
      simp only [Session.Follows, phase] at followed
      rcases followed with ⟨_, _, inst⟩
      have version : call.2.inst.vrouter.version = conf.version := by rw [inst]; rfl
      have links := progress.links
      have addresses := progress.addresses
      simp only [phase, Phase.made, Phase.serves] at links addresses
      refine ⟨follows, ?_, fun _ => addresses trivial⟩
      intro name
      rw [links, version]
      cases conf_version : conf.version <;> simp [Phase.made, Config.macVlan, conf_version]
  | createV6 phase created =>
      simp only [Session.Follows, phase] at followed
      rcases followed with ⟨parentName, version, primaryIp, inst⟩
      have conf_version : conf.version = .v3 := version
      have result := progress.created created parentName (by rw [inst]; rfl)
        (by simp [Config.macVlan, conf_version]) (by rw [phase]; rfl)
      simp only [phase, Phase.made] at result
      exact ⟨follows, fun name => (result name).1, fun _ name => (result name).2⟩
  | checkV6 phase =>
      have links := progress.links
      have addresses := progress.addresses
      simp only [phase, Phase.made, Phase.serves] at links addresses
      exact ⟨follows, links, fun _ => addresses trivial⟩
  | startup phase =>
      have links := progress.links
      simp only [phase, Phase.made] at links
      split_ifs at opened follows ⊢ with started
      · refine ⟨follows, fun name => ?_, fun waits => by simp [Phase.serves] at waits⟩
        have kept := call.2.inst.step_keeps_links (call.1.env attempt.now attempt.setAt)
          (.notify .startup) (fun _ => by simp) name
        exact (Host.has_perform_all kept).trans (links name)
      · contradiction
  | serves timerNext phase task =>
      have links := progress.links
      simp only [phase, Phase.made] at links
      refine ⟨follows, fun name => ?_, fun waits => by simp [Phase.serves] at waits⟩
      have kept := call.2.inst.step_keeps_links (call.1.env attempt.now attempt.setAt) _
        (fun _ => Input.not_notify_of_task task .shutdown) name
      exact (Host.has_perform_all kept).trans (links name)
  | stops => contradiction

/-- The attempt makes a router with a sound lock put the addresses of a family on its
mac-vlan. -/
def Installs (call : Call) (attempt : Attempt) (family : AddressFamily) : Prop :=
  call.2.inst.poisoned = false ∧ ∃ input, call.brings attempt = some input ∧
    call.2.inst.vrouter.Installs (call.1.env attempt.now attempt.setAt) family input

def Withdraws (call : Call) (attempt : Attempt) (family : AddressFamily) : Prop :=
  call.2.inst.poisoned = false ∧ ∃ input, call.brings attempt = some input ∧
    call.2.inst.vrouter.Withdraws (call.1.env attempt.now attempt.setAt) family input

theorem step_brings {input : Input} (brought : call.brings attempt = some input) :
    (machine.step call attempt).1.1 =
      call.1.performAll (call.2.inst.step (call.1.env attempt.now attempt.setAt) input).2 := by
  rcases attempt with ⟨now, setAt, move⟩
  cases move with
  | error error => contradiction
  | ok move => exact Session.step_brings brought call.1 now setAt

theorem step_quiet (quiet : call.brings attempt = none) (name : String) (net : IpNet) :
    (machine.step call attempt).1.1.Holds name net ↔ call.1.Holds name net := by
  rcases attempt with ⟨now, setAt, move⟩
  cases move with
  | error error => exact Iff.rfl
  | ok move =>
      simp only [brings] at quiet
      simp only [machine]
      have course := call.2.step_course call.1 now setAt move
      generalize (call.2.step call.1 now setAt move).1 = host at course ⊢
      generalize (call.2.step call.1 now setAt move).2.1 = session at course
      cases course with
      | idle => exact Iff.rfl
      | ends => exact Iff.rfl
      | lookup => exact Iff.rfl
      | createV4 phase created => exact (Host.create_mac_vlan_holds created name).2 net
      | checkV4 => exact Iff.rfl
      | createV6 phase created => exact (Host.create_mac_vlan_holds created name).2 net
      | checkV6 => exact Iff.rfl
      | startup phase => simp [Session.brings, phase] at quiet
      | serves timerNext phase task => simp [Session.brings, phase, task] at quiet
      | stops phase => simp [Session.brings, phase] at quiet

theorem Progress.linked (progress : Progress fromStr conf origin call) {input : Input}
    (brought : call.brings attempt = some input) (family : AddressFamily) :
    call.2.inst.vrouter.macVlan family = conf.macVlan family ∧
      call.2.inst.vrouter.nets family = (configToVr fromStr conf).nets family ∧
        ∀ name, conf.macVlan family = some name → call.1.Has name := by
  have links := progress.links
  have follows := progress.follows
  have known (prepares : Session.Prepares (configToVr fromStr conf) call.2.inst)
      (made : call.2.phase.made conf = (conf.macVlan .v4).toList ++ (conf.macVlan .v6).toList) :
      call.2.inst.vrouter.macVlan family = conf.macVlan family ∧
        call.2.inst.vrouter.nets family = (configToVr fromStr conf).nets family ∧
          ∀ name, conf.macVlan family = some name → call.1.Has name := by
    refine ⟨(prepares.mac_vlan family).1, (prepares.mac_vlan family).2, fun name own => ?_⟩
    rw [links, made]
    right
    cases family <;> simp [own]
  rcases attempt with ⟨now, setAt, move⟩
  cases move with
  | error error => contradiction
  | ok move =>
      cases move with
      | finish => contradiction
      | advance =>
          simp only [brings, Session.brings] at brought
          split at brought
          · rename_i phase
            simp only [Session.Follows, phase] at follows
            exact known follows (by rw [phase]; rfl)
          · contradiction
      | handle moved =>
          simp only [brings, Session.brings] at brought
          split at brought
          · rename_i timer leaving phase
            simp only [Session.Follows, phase] at follows
            exact known follows (by rw [phase]; rfl)
          · contradiction

theorem keeps_links (opened : (machine.step call attempt).1.2.phase.isOpen = true) {input : Input}
    (brought : call.brings attempt = some input) (name : String) :
    .deleteMacVlan name ∉
      (call.2.inst.step (call.1.env attempt.now attempt.setAt) input).2 :=
  call.2.inst.step_keeps_links _ input (fun _ => brings_of_open opened brought) name

theorem gains (progress : Progress fromStr conf origin call) {name : String} {net : IpNet}
    (absent : ¬ call.1.Holds name net) (gained : (machine.step call attempt).1.1.Holds name net) :
    ∃ family, conf.macVlan family = some name ∧ net ∈ (configToVr fromStr conf).nets family ∧
      call.Installs attempt family := by
  cases brought : call.brings attempt with
  | none => exact absurd ((step_quiet brought name net).mp gained) absent
  | some input =>
      rw [step_brings brought] at gained
      by_contra never
      cases poisoned : call.2.inst.poisoned with
      | true =>
          rw [Instance.step_poisoned poisoned] at gained
          exact absent gained
      | false =>
          refine Host.not_holds_perform_all (.inl absent) ?_ gained
          intro effect member adds
          rcases adds_of_transition (Instance.step_transition poisoned _ input) member adds with
            ⟨family, own, listed, installs⟩
          have linked := progress.linked brought family
          exact never ⟨family, linked.1.symm.trans own, linked.2.1 ▸ listed, poisoned, input,
            brought, installs⟩

theorem loses (progress : Progress fromStr conf origin call)
    (opened : (machine.step call attempt).1.2.phase.isOpen = true) {name : String} {net : IpNet}
    (present : call.1.Holds name net)
    (lost : ¬ (machine.step call attempt).1.1.Holds name net) :
    ∃ family, conf.macVlan family = some name ∧ call.Withdraws attempt family := by
  cases brought : call.brings attempt with
  | none => exact absurd ((step_quiet brought name net).mpr present) lost
  | some input =>
      have kept := keeps_links opened brought name
      rw [step_brings brought] at lost
      by_contra never
      cases poisoned : call.2.inst.poisoned with
      | true =>
          rw [Instance.step_poisoned poisoned] at lost
          exact lost present
      | false =>
          apply lost
          apply Host.holds_perform_all (.inr kept) present
          intro effect member strips
          rcases strips_of_transition (Instance.step_transition poisoned _ input) member strips
            with ⟨family, own, withdraws⟩
          have linked := progress.linked brought family
          exact never ⟨family, linked.1.symm.trans own, poisoned, input, brought, withdraws⟩

theorem installed (progress : Progress fromStr conf origin call)
    (opened : (machine.step call attempt).1.2.phase.isOpen = true) {family : AddressFamily}
    (installs : call.Installs attempt family) {name : String}
    (own : conf.macVlan family = some name) {net : IpNet}
    (configured : net ∈ (configToVr fromStr conf).nets family) :
    (machine.step call attempt).1.1.Holds name net := by
  rcases installs with ⟨sound, input, brought, installs⟩
  have linked := progress.linked brought family
  have kept := keeps_links opened brought name
  have handled : (call.2.inst.step (call.1.env attempt.now attempt.setAt) input).2 =
      (call.2.inst.vrouter.handle (call.1.env attempt.now attempt.setAt) input).effects := by
    simp [Instance.step, sound]
  have edits := installs_adds installs (linked.1.trans own) (linked.2.1 ▸ configured)
  rw [step_brings brought, handled]
  rw [handled] at kept
  exact Host.holds_perform_all_added (linked.2.2 name own) kept edits.1 edits.2

theorem withdrawn (progress : Progress fromStr conf origin call) {family : AddressFamily}
    (withdraws : call.Withdraws attempt family) {name : String}
    (own : conf.macVlan family = some name) {net : IpNet}
    (configured : net ∈ (configToVr fromStr conf).nets family) :
    ¬ (machine.step call attempt).1.1.Holds name net := by
  rcases withdraws with ⟨sound, input, brought, withdraws⟩
  have linked := progress.linked brought family
  have v4 := progress.linked brought .v4
  have handled : (call.2.inst.step (call.1.env attempt.now attempt.setAt) input).2 =
      (call.2.inst.vrouter.handle (call.1.env attempt.now attempt.setAt) input).effects := by
    simp [Instance.step, sound]
  rcases Host.get_interface_of_has (v4.2.2 _ (v4.1.symm.trans rfl)) attempt.now attempt.setAt with
    ⟨interface, found⟩
  have edits := withdraws_removes found withdraws (linked.1.trans own) (linked.2.1 ▸ configured)
  rw [step_brings brought, handled]
  exact Host.not_holds_perform_all (.inr edits.1) edits.2

end Call

theorem Session.step_leaving {session : Session} {timer : Bool}
    (phase : session.phase = .serving timer true) (host : Host) (now setAt : Instant) (move : Move)
    (error : NetworkError) :
    (session.step host now setAt move).2.1.phase ≠ .ended (.err error) := by
  cases move with
  | advance => simp [step, advance, phase]
  | finish => simp [step, phase]
  | handle input =>
      by_cases task : input.HasTask session.inst.vrouter.version timer = true
      · simp [step, phase, task, serve]
      · simp [step, phase, task]

theorem Call.host_of_error {error : NetworkError}
    (fails : (machine.step call attempt).1.2.phase = .ended (.err error)) :
    (machine.step call attempt).1.1 = call.1 := by
  rcases attempt with ⟨now, setAt, move⟩
  cases move with
  | error error => rfl
  | ok move =>
      simp only [machine] at fails ⊢
      have course := call.2.step_course call.1 now setAt move
      generalize (call.2.step call.1 now setAt move).1 = host at course ⊢
      generalize (call.2.step call.1 now setAt move).2.1 = session at course fails
      cases course with
      | idle => rfl
      | ends => rfl
      | lookup => rfl
      | createV4 => contradiction
      | checkV4 => rfl
      | createV6 => contradiction
      | checkV6 => rfl
      | startup =>
          simp only at fails
          split_ifs at fails
          cases fails
      | serves => contradiction
      | stops => contradiction

/-- A call of `run` on an accepted configuration, and the attempt that ends it with an
error. -/
structure FailedRun (fromStr : String → Option IpNet) where
  valid : ValidConfigs fromStr
  conf : Config
  member : conf ∈ valid.configs
  host : Host
  attempts : List Attempt
  last : Attempt
  error : NetworkError
  runs : ∀ result, (Call.machine.after (host, .new (configToVr fromStr conf)) attempts).2.phase ≠
    .ended result
  fails : (Call.machine.after (host, .new (configToVr fromStr conf)) (attempts ++ [last])).2.phase =
    .ended (.err error)

namespace FailedRun

def start (run : FailedRun fromStr) : Call := (run.host, .new (configToVr fromStr run.conf))

def after (run : FailedRun fromStr) (attempts : List Attempt) : Call :=
  Call.machine.after run.start attempts

def left (run : FailedRun fromStr) : Host := (run.after (run.attempts ++ [run.last])).1

def nets (run : FailedRun fromStr) (family : AddressFamily) : List IpNet :=
  (configToVr fromStr run.conf).nets family

/-- No link and no address is left that was not there all along. -/
def Clean (run : FailedRun fromStr) : Prop :=
  ∀ before rest, run.attempts = before ++ rest →
    (∀ name, run.left.Has name → (run.after before).1.Has name) ∧
      ∀ name net, run.left.Holds name net → (run.after before).1.Holds name net

/-- The mac-vlans made or reused before the statement that fails were there before the
call, and whenever the router put a missing address on one of them, it withdrew the
family of that address later. -/
def Spared (run : FailedRun fromStr) : Prop :=
  (∀ name ∈ (run.after run.attempts).2.phase.made run.conf, run.host.Has name) ∧
    ∀ before attempt rest, run.attempts = before ++ attempt :: rest →
      ∀ family name, run.conf.macVlan family = some name →
        (run.after before).Installs attempt family →
          (∃ net ∈ run.nets family, ¬ (run.after before).1.Holds name net) →
            ∃ middle later others, rest = middle ++ later :: others ∧
              (run.after (before ++ attempt :: middle)).Withdraws later family

theorem after_snoc (run : FailedRun fromStr) (before : List Attempt) (attempt : Attempt) :
    run.after (before ++ [attempt]) = (Call.machine.step (run.after before) attempt).1 :=
  Call.machine.after_snoc run.start before attempt

theorem open_at_end (run : FailedRun fromStr) :
    (run.after run.attempts).2.phase.isOpen = true := by
  by_contra closed
  rw [Bool.not_eq_true] at closed
  have fails := run.fails
  have runs := run.runs
  change (run.after (run.attempts ++ [run.last])).2.phase = _ at fails
  change ∀ result, (run.after run.attempts).2.phase ≠ .ended result at runs
  rw [after_snoc] at fails
  generalize run.after run.attempts = call at fails runs closed
  cases phase : call.2.phase with
  | ended result => exact runs result phase
  | serving timer leaving =>
      cases leaving with
      | false => simp [phase, Phase.isOpen] at closed
      | true =>
          generalize run.last = last at fails
          rcases last with ⟨now, setAt, move⟩
          cases move with
          | error error => simp [Call.machine, phase, Phase.failed] at fails
          | ok move => exact Session.step_leaving phase call.1 now setAt move _ fails
  | _ => simp [phase, Phase.isOpen] at closed

theorem left_eq (run : FailedRun fromStr) : run.left = (run.after run.attempts).1 := by
  have fails := run.fails
  change (run.after (run.attempts ++ [run.last])).2.phase = _ at fails
  unfold left
  rw [after_snoc] at fails ⊢
  exact Call.host_of_error fails

theorem open_before (run : FailedRun fromStr) {before rest : List Attempt}
    (split : run.attempts = before ++ rest) : (run.after before).2.phase.isOpen = true := by
  by_contra closed
  rw [Bool.not_eq_true] at closed
  have atEnd := run.open_at_end
  rw [split, after, Machine.after_append] at atEnd
  have still := Call.machine.after_invariant (fun call => call.2.phase.isOpen = false)
    Call.closed_step closed rest
  rw [after] at still
  rw [still] at atEnd
  contradiction

theorem progress (run : FailedRun fromStr) {before rest : List Attempt}
    (split : run.attempts = before ++ rest) :
    Call.Progress fromStr run.conf run.host (run.after before) := by
  induction before using List.reverseRecOn generalizing rest with
  | nil =>
      constructor
      · rfl
      · intro name
        simp [after, start, Session.new, Phase.made]
      · exact fun _ name net => Iff.rfl
  | append_singleton before attempt ih =>
      have opened := run.open_before split
      rw [after_snoc] at opened ⊢
      rw [List.append_assoc] at split
      exact Call.progress_step (ih split) opened

/-- The links that are left were there all along when those that the run needed were
there before it. -/
theorem links_clean_iff (run : FailedRun fromStr) :
    (∀ before rest, run.attempts = before ++ rest →
        ∀ name, run.left.Has name → (run.after before).1.Has name) ↔
      ∀ name ∈ (run.after run.attempts).2.phase.made run.conf, run.host.Has name := by
  have atEnd := run.progress (List.append_nil run.attempts).symm
  rw [left_eq]
  constructor
  · intro clean name made
    exact clean [] run.attempts rfl name ((atEnd.links name).mpr (.inr made))
  · intro spared before rest split name left
    apply ((run.progress split).links name).mpr
    left
    rcases (atEnd.links name).mp left with found | made
    · exact found
    · exact spared name made

/-- An address that is left was there all along when every time it was put on its
mac-vlan it was withdrawn later. -/
theorem addresses_clean_iff (run : FailedRun fromStr) :
    (∀ before rest, run.attempts = before ++ rest →
        ∀ name net, run.left.Holds name net → (run.after before).1.Holds name net) ↔
      ∀ before attempt rest, run.attempts = before ++ attempt :: rest →
        ∀ family name, run.conf.macVlan family = some name →
          (run.after before).Installs attempt family →
            (∃ net ∈ run.nets family, ¬ (run.after before).1.Holds name net) →
              ∃ middle later others, rest = middle ++ later :: others ∧
                (run.after (before ++ attempt :: middle)).Withdraws later family := by
  rw [left_eq]
  have lasting (name : String) (net : IpNet) :=
    Call.machine.held_throughout_iff (fun call => call.1.Holds name net) run.start run.attempts
  have opened {before rest : List Attempt} {attempt : Attempt}
      (split : run.attempts = before ++ attempt :: rest) :
      (Call.machine.step (run.after before) attempt).1.2.phase.isOpen = true := by
    rw [← run.after_snoc]
    exact run.open_before (by simpa using split)
  constructor
  · rintro clean before attempt rest split family name own installs ⟨net, configured, missing⟩
    have gained := Call.installed (run.progress split) (opened split) installs own configured
    rw [← run.after_snoc] at gained
    rcases (lasting name net).mp (fun left before rest split => clean before rest split name net left)
      before attempt rest split missing gained with ⟨middle, later, others, shape, held, lost⟩
    have splitLater : run.attempts = (before ++ attempt :: middle) ++ later :: others := by
      simp [split, shape]
    rw [← List.cons_append, ← List.append_assoc, Machine.after_snoc] at lost
    rcases Call.loses (run.progress splitLater) (opened splitLater) held lost with
      ⟨other, otherOwn, withdraws⟩
    have same : other = family := Config.mac_vlan_injective otherOwn own
    exact ⟨middle, later, others, shape, same ▸ withdraws⟩
  · intro spared before rest split name net left
    apply (lasting name net).mpr _ left before rest split
    intro before attempt rest split missing gained
    rw [Machine.after_snoc] at gained
    rcases Call.gains (run.progress split) missing gained with ⟨family, own, configured, installs⟩
    rcases spared before attempt rest split family name own installs ⟨net, configured, missing⟩
      with ⟨middle, later, others, shape, withdraws⟩
    have splitLater : run.attempts = (before ++ attempt :: middle) ++ later :: others := by
      simp [split, shape]
    by_contra never
    push Not at never
    apply Call.withdrawn (run.progress splitLater) withdraws own configured
    rw [← run.after_snoc, List.append_assoc, List.cons_append, ← List.singleton_append,
      ← List.append_assoc, after, Machine.after_append]
    rw [← Machine.after_snoc] at gained
    apply Call.machine.holds_unless_lost (fun call => call.1.Holds name net) gained
    intro first lost rest parts held
    rw [← Machine.after_append] at held ⊢
    have kept := never first lost (rest ++ others) (by
      rw [shape, ← List.singleton_append, ← List.append_assoc, parts]
      simp)
    simpa using kept (by simpa using held)

/-- A failed call leaves the host as it found it exactly when every mac-vlan it came to
use was there before and every address it installed was withdrawn before the error. -/
theorem clean_iff (run : FailedRun fromStr) : run.Clean ↔ run.Spared := by
  unfold Spared
  rw [← links_clean_iff, ← addresses_clean_iff]
  constructor
  · intro clean
    exact ⟨fun before rest split => (clean before rest split).1,
      fun before rest split => (clean before rest split).2⟩
  · rintro ⟨links, addresses⟩ before rest split
    exact ⟨links before rest split, addresses before rest split⟩

end FailedRun

/-- The mac-vlan is made, and the lookup that follows does not find it. -/
def Sample.abandoned : FailedRun Sample.parseNet where
  valid := { configs := [Sample.config .v2 100], accepted := rfl }
  conf := Sample.config .v2 100
  member := List.mem_cons_self
  host := Sample.host
  attempts := List.replicate 2 { now := 0, setAt := 0, move := .ok .advance }
  last :=
    { now := 0
      setAt := 0
      move := .error (.interfaceNotFound (macVlanName "eth0" 51 .v4)) }
  error := .interfaceNotFound (macVlanName "eth0" 51 .v4)
  runs result ended := by
    have opened : (Call.machine.after
        (Sample.host, .new (configToVr Sample.parseNet (Sample.config .v2 100)))
        (List.replicate 2 { now := 0, setAt := 0, move := .ok .advance })).2.phase.isOpen =
          true := by decide +kernel
    rw [ended] at opened
    contradiction
  fails := by decide +kernel

theorem FailedRun.failed_lookup_leaks : ¬ Sample.abandoned.Clean := by
  intro clean
  have left : Sample.abandoned.left.Has (macVlanName "eth0" 51 .v4) := by decide +kernel
  have before : ¬ Sample.host.Has (macVlanName "eth0" 51 .v4) := by decide +kernel
  exact before ((clean [] Sample.abandoned.attempts rfl).1 _ left)

end Failover
