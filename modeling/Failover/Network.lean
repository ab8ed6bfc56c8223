import Failover.Convergence
import Failover.HostAddresses
import Failover.Library.Simulation

/-!
# A network of hosts

Hosts that exchange advertisements, each with the instances of its own configuration
and its own links. The members of one virtual router, one on each host, are a cluster
in which the election takes place, and their hosts show its outcome.
-/

namespace Failover

open Library VirtualRouter

set_option autoImplicit false

variable {Name Local : Type*} [DecidableEq Local]

def Occurrence.message : Occurrence Local → Option Input
  | .run _ _ _ (.handle input) => input.message
  | _ => none

def Daemon.party : Party (Daemon Local) (Occurrence Local) Input where
  react daemon occurrence :=
    let (next, effects) := Daemon.machine.step daemon occurrence
    (next, effects.filterMap Effect.arrival)
  received := Occurrence.message

abbrev Network (Name Local : Type*) := Soup Name (Daemon Local) Input

namespace Network

omit [DecidableEq Local] in
def start (fromStr : String → Option IpNet) (conf : Name → Local → Config)
    (hosts : Name → Host) : Network Name Local where
  locals name := Daemon.start fromStr (conf name) (hosts name)
  sent := []

def member (which : Name → Local) (network : Network Name Local) (name : Name) : Session :=
  (network.locals name).sessions (which name)

def cluster (which : Name → Local) (network : Network Name Local) : Cluster Name where
  locals name := (member which network name).inst
  sent := []

/-- What a move makes a member handle, and what its host shows meanwhile. -/
def sees (which : Name → Local) (network : Network Name Local) :
    Name × Occurrence Local → Option (Name × Env × Input)
  | (name, .run session now setAt move) =>
      if session = which name then
        ((member which network name).brings move).map fun input =>
          (name, (network.locals name).host.env now setAt, input)
      else none
  | (_, .autoconfigure _ _) => none

end Network

namespace Network

variable {which : Name → Local}

def Shows (which : Name → Local) (view : Cluster Name) (network : Network Name Local) : Prop :=
  ∀ name, view.locals name = (member which network name).inst

variable [DecidableEq Name]

theorem step_member (network : Network Name Local) (name mover : Name)
    (occurrence : Occurrence Local) :
    member which ((Soup.machine Daemon.party).step network (mover, occurrence)).1 name =
      if name = mover then
        (Daemon.machine.step (network.locals mover) occurrence).1.sessions (which mover)
      else member which network name := by
  by_cases same : name = mover
  · subst same
    rw [if_pos rfl, member, Soup.step_locals_self]
    rfl
  · rw [if_neg same, member, Soup.step_locals_other Daemon.party network same]
    rfl

theorem underway_step (network : Network Name Local) (move : Name × Occurrence Local)
    (underway : ∀ name, (member which network name).Underway) :
    ∀ name, (member which ((Soup.machine Daemon.party).step network move).1 name).Underway := by
  obtain ⟨mover, occurrence⟩ := move
  intro name
  rw [step_member]
  split_ifs with same
  · cases occurrence with
    | autoconfigure iface net => exact underway mover
    | run session now setAt move =>
        simp only [Daemon.machine]
        by_cases own : which mover = session
        · subst own
          rw [Function.update_self]
          exact (Session.step_underway (underway mover) _ now setAt move).1
        · rw [Function.update_of_ne own]
          exact underway mover
  · exact underway name

theorem shows_step (view : Cluster Name) (network : Network Name Local)
    (move : Name × Occurrence Local)
    (underway : ∀ name, (member which network name).Underway)
    (shows : Shows which view network) :
    Shows which ((Soup.machine Instance.party).after view (sees which network move).toList)
      ((Soup.machine Daemon.party).step network move).1 := by
  obtain ⟨mover, occurrence⟩ := move
  intro name
  rw [step_member]
  cases occurrence with
  | autoconfigure iface net =>
      split_ifs with same
      · rw [same]
        exact shows mover
      · exact shows name
  | run session now setAt move =>
      by_cases own : session = which mover
      · subst own
        have stepped := (Session.step_underway (underway mover) (network.locals mover).host now
          setAt move).2
        simp only [sees, if_true, Daemon.machine, Function.update_self]
        cases brought : (member which network mover).brings move with
        | none =>
            rw [brought] at stepped
            split_ifs with same
            · subst same
              exact (shows name).trans stepped.symm
            · exact shows name
        | some input =>
            rw [brought] at stepped
            simp only [Option.map_some, Option.toList_some, Machine.after_cons, Machine.after_nil]
            split_ifs with same
            · subst same
              rw [Soup.step_locals_self, shows name]
              exact stepped.symm
            · rw [Soup.step_locals_other Instance.party view same]
              exact shows name
      · simp only [sees, if_neg own, Daemon.machine]
        split_ifs with same
        · rw [same, Function.update_of_ne (Ne.symm own)]
          exact shows mover
        · exact shows name

/-- What the members handle in a run of the network is a run of the cluster, and leaves
them as the network does. -/
theorem shows_after {network : Network Name Local}
    (underway : ∀ name, (member which network name).Underway)
    (moves : List (Name × Occurrence Local)) :
    Shows which
      ((Soup.machine Instance.party).after (network.cluster which)
        ((Soup.machine Daemon.party).seen (sees which) network moves))
      ((Soup.machine Daemon.party).after network moves) :=
  Machine.seen_related (fun network => ∀ name, (member which network name).Underway)
    underway_step shows_step underway (fun _ => rfl) moves

end Network

theorem VirtualRouterGroup.with_fsm {built : Name → VirtualRouter}
    (members : VirtualRouterGroup built) (fsm : Name → VirtualRouterMachine) :
    VirtualRouterGroup fun name => (built name).withFsm (fsm name) := by
  constructor
  · exact fun name => (members.ready name).with_fsm (fsm name)
  · intro name
    exact ⟨(members.advertisable name).ipv4_count, (members.advertisable name).ipv6_count,
      (members.advertisable name).interval⟩
  · intro left right
    have group := members.group left right
    exact ⟨group.version, group.vrid, group.advertInterval, group.ipv4Addresses,
      group.ipv6Addresses⟩
  · exact members.positive

/-- A v2 virtual router with a member on each host. The hosts may run any other
instances, none of which has its VRID. -/
structure Deployment (fromStr : String → Option IpNet) (Name Local : Type*) where
  valid : ValidConfigs fromStr
  base : Config
  listed : base ∈ valid.configs
  version : base.version = .v2
  conf : Name → Local → Config
  which : Name → Local
  same : ∀ name, base.SameVirtualRouter (conf name (which name))
  alone : ∀ name other, other ≠ which name → (conf name other).vrid ≠ base.vrid
  positive : ∀ name, (conf name (which name)).priority ≠ 0
  distinct : Function.Injective fun name => (conf name (which name)).priority

namespace Deployment

variable {fromStr : String → Option IpNet} (deployment : Deployment fromStr Name Local)

def priority (name : Name) : UInt8 :=
  (deployment.conf name (deployment.which name)).priority

/-- The member is Master, or becomes Master as soon as it hears a lower one. -/
def Contends (network : Network Name Local) (name : Name) : Prop :=
  (deployment.conf name (deployment.which name)).preemptMode = true ∨
    (Network.cluster deployment.which network).IsMaster name

instance (network : Network Name Local) (name : Name) :
    Decidable (deployment.Contends network name) :=
  inferInstanceAs (Decidable (_ ∨ _))

def macVlan (name : Name) : String :=
  macVlanName (deployment.conf name (deployment.which name)).interfaceName deployment.base.vrid .v4

omit [DecidableEq Local] in
theorem member_config (name : Name) :
    (deployment.conf name (deployment.which name)).version = deployment.base.version ∧
      (deployment.conf name (deployment.which name)).vrid = deployment.base.vrid ∧
        (deployment.conf name (deployment.which name)).ipAddresses =
          deployment.base.ipAddresses := by
  have same := deployment.same name
  unfold Config.SameVirtualRouter at same
  rw [same]
  exact ⟨rfl, rfl, rfl⟩

omit [DecidableEq Local] in
theorem member_addresses (name : Name) :
    (configToVr fromStr (deployment.conf name (deployment.which name))).strIpv4Addresses =
        (configToVr fromStr deployment.base).strIpv4Addresses ∧
      (configToVr fromStr (deployment.conf name (deployment.which name))).ipv6Addresses = [] := by
  have valid := valid_config_addresses deployment.valid.accepted _ deployment.listed
  have v4Only := config_to_vr_v4_only deployment.version valid
  obtain ⟨_, _, addresses⟩ := deployment.member_config name
  constructor
  · simp only [configToVr, VirtualRouter.new, strIpv4Addresses, addresses]
  · rw [← v4Only]
    simp only [configToVr, VirtualRouter.new, addresses]

variable [DecidableEq Name]

theorem member_settled (hosts : Name → Host) (moves : List (Name × Occurrence Local))
    (name : Name) :
    let network := (Soup.machine Daemon.party).after
      (Network.start fromStr deployment.conf hosts) moves
    let session := Network.member deployment.which network name
    session.Ready fromStr (deployment.conf name (deployment.which name))
        (network.locals name).host ∧
      session.Settled (network.locals name).host := by
  intro network session
  have alone : ∀ other, other ≠ deployment.which name → (deployment.conf name other).vrid ≠
      (deployment.conf name (deployment.which name)).vrid := by
    rw [(deployment.member_config name).2.1]
    exact deployment.alone name
  have version := (deployment.member_config name).1.trans deployment.version
  have single := Daemon.single_of_v2 version (deployment.member_addresses name).2 (hosts name)
    (Soup.own name moves)
  have host : network.locals name = Daemon.machine.after
      (Daemon.start fromStr (deployment.conf name) (hosts name)) (Soup.own name moves) :=
    Soup.locals_after Daemon.party (fun _ _ => rfl) _ moves name
  have kept := Daemon.settled_after alone (hosts name) single
  rw [← host] at kept
  exact ⟨kept.1.1 (deployment.which name), kept.2⟩

omit [DecidableEq Local] [DecidableEq Name] in
theorem members_grouped {network : Network Name Local}
    (prepares : ∀ name, Session.Prepares
      (configToVr fromStr (deployment.conf name (deployment.which name)))
      (Network.member deployment.which network name).inst) :
    VirtualRouterGroup fun name => (Network.member deployment.which network name).inst.vrouter := by
  choose parent primaryIp _ runs using prepares
  have group := virtual_router_group_of_configs deployment.valid.accepted deployment.listed
    deployment.same deployment.positive parent primaryIp
  choose fsm config using fun name => (runs name).config
  simp only [config]
  exact group.with_fsm fsm

end Deployment

namespace Sample

def deployment : Deployment parseNet Bool Unit where
  valid := { configs := [config .v2 200], accepted := rfl }
  base := config .v2 200
  listed := List.mem_cons_self
  version := rfl
  conf host _ := config .v2 (if host then 200 else 100)
  which _ := ()
  same _ := rfl
  alone _ _ other := absurd rfl other
  positive := by decide
  distinct := by decide

def hosts : Bool → Host
  | true => host.setLink "eth0"
      { index := 2
        isMacVlan := false
        mac := some [2, 0, 0, 0, 0, 20]
        parentIndex := none
        ips := (parent 20).ips }
  | false => crashedHost

def handles (host : Bool) (time : Instant) (input : Input) : Bool × Occurrence Unit :=
  (host, .run () time time (.handle input))

/-- Both hosts start, hear nothing and take over. -/
def split : List (Bool × Occurrence Unit) :=
  List.replicate 4 (true, .run () 0 0 .advance) ++ List.replicate 4 (false, .run () 0 0 .advance) ++
    [handles true 10 .tick, handles false 10 .tick]

def splitNetwork : Network Bool Unit :=
  (Soup.machine Daemon.party).after (Network.start parseNet deployment.conf hosts) split

def advertOf (host : Bool) : Input :=
  .vrrpV4 (Network.member deployment.which splitNetwork host).inst.vrouter.ipv4Advert

def splitRounds : List (List (Bool × Occurrence Unit)) :=
  [[handles true 11 (advertOf false), handles false 11 (advertOf true)],
    [handles false 12 (advertOf true)]]

end Sample

namespace Deployment

end Deployment

end Failover
