import Failover.Library.Unwinding
import Failover.LinkOwnership

/-!
# Instances that do not meet

Instances with different VRIDs share the links of their host. Each of them behaves as if
it were alone there, but for the source filter: it takes the addresses on all links for
those of the host, the virtual addresses of the other instances among them.
-/

namespace Failover

open Library VirtualRouter

set_option autoImplicit false

def Input.source : Input → Option IpAddr
  | .vrrpV4 packet => some (.v4 packet.source)
  | .vrrpV6 _ srcIp => some (.v6 srcIp)
  | _ => none

/-- What a handler reads of the host, but for the source filter, is the same. -/
structure Env.Alike (vrouter : VirtualRouter) (left right : Env) : Prop where
  now : left.now = right.now
  setAt : left.setAt = right.setAt
  links : ∀ family iface, vrouter.macVlan family = some iface →
    left.getInterface iface = right.getInterface iface

namespace VirtualRouter

variable {left right : Env} {vrouter : VirtualRouter}

theorem notify_alike (alike : left.Alike vrouter right) (event : Event) :
    vrouter.notifyMut left event = vrouter.notifyMut right event := by
  have v4 := alike.links .v4 _ rfl
  have v6 : vrouter.v6InterfaceMac left = vrouter.v6InterfaceMac right := by
    unfold v6InterfaceMac
    cases side : vrouter.macVlanInterfaceV6 with
    | none => rfl
    | some iface => simp only [alike.links .v6 iface side]
  simp only [notifyMut, becomeMaster, announceOwnership, v4, v6, alike.setAt]

theorem tick_alike (alike : left.Alike vrouter right) :
    vrouter.timerTick left = vrouter.timerTick right := by
  simp only [timerTick, notify_alike alike, alike.now, alike.setAt]

theorem process_alike (alike : left.Alike vrouter right) (payload : List UInt8)
    (srcIp dstIp : IpAddr) (ttl : UInt8) :
    vrouter.processVrrpPacket left payload srcIp dstIp ttl =
      vrouter.processVrrpPacket right payload srcIp dstIp ttl := by
  have yielded (fsm : VirtualRouterMachine) :
      (vrouter.withFsm fsm).notifyMut left .null = (vrouter.withFsm fsm).notifyMut right .null := by
    have stepped : left.Alike (vrouter.withFsm fsm) right := ⟨alike.now, alike.setAt, alike.links⟩
    exact notify_alike stepped .null
  simp only [processVrrpPacket, dispatchVrrpPacket, yielded, alike.setAt]

theorem arp_alike (alike : left.Alike vrouter right) (packet : EthernetPacket) :
    vrouter.handleIncomingArpPkt left packet = vrouter.handleIncomingArpPkt right packet := by
  simp only [handleIncomingArpPkt, alike.links .v4 _ rfl]

theorem ndp_alike (alike : left.Alike vrouter right) (payload : List UInt8) :
    vrouter.handleIncomingNdpPkt left payload = vrouter.handleIncomingNdpPkt right payload := by
  unfold handleIncomingNdpPkt
  cases side : vrouter.macVlanInterfaceV6 with
  | none => rfl
  | some iface => simp only [alike.links .v6 iface side]

theorem handle_alike (alike : left.Alike vrouter right) {input : Input}
    (filter : ∀ address, input.source = some address →
      left.isLocal address = right.isLocal address) :
    vrouter.handle left input = vrouter.handle right input := by
  cases input with
  | notify event => exact notify_alike alike event
  | tick => exact tick_alike alike
  | arp packet => exact arp_alike alike packet
  | ndp payload => exact ndp_alike alike payload
  | vrrpV4 packet =>
      have same := filter _ rfl
      simp only [handle, handleIncomingVrrpV4Pkt, same, process_alike alike]
  | vrrpV6 payload srcIp =>
      have same := filter _ rfl
      simp only [handle, handleIncomingVrrpV6Pkt, same, process_alike alike]

end VirtualRouter

namespace Instance

variable {left right : Env} {inst : Instance} {input : Input}

theorem step_alike (handled : inst.vrouter.handle left input = inst.vrouter.handle right input) :
    inst.step left input = inst.step right input := by
  simp only [step, handled]

theorem survives_alike (handled : inst.vrouter.handle left input =
    inst.vrouter.handle right input) :
    inst.timerSurvives left input = inst.timerSurvives right input := by
  cases input with
  | tick =>
      have same : inst.vrouter.timerTick left = inst.vrouter.timerTick right := handled
      simp only [timerSurvives, same]
  | _ => rfl

end Instance

namespace Link

def contents (link : Link) : Link := { link with index := 0 }

theorem contents_eq {left right : Link} (same : left.contents = right.contents) :
    left.isMacVlan = right.isMacVlan ∧ left.mac = right.mac ∧
      left.parentIndex = right.parentIndex ∧ left.ips = right.ips := by
  simpa [contents] using same

theorem address_action_contents (promotes : Bool) (link : Link) (action : AddressAction)
    (addresses : List IpNet) :
    (link.addressAction promotes action addresses).contents =
      link.contents.addressAction promotes action addresses := by
  cases action with
  | add =>
      induction addresses generalizing link with
      | nil => rfl
      | cons address rest ih =>
          have first : (link.addAddress address).contents = link.contents.addAddress address := by
            by_cases present : address ∈ link.ips
            · simp [addAddress, contents, present]
            · simp [addAddress, contents, present]
          exact (ih (link.addAddress address)).trans
            (congrArg (fun link => link.addressAction promotes .add rest) first)
  | delete =>
      induction addresses generalizing link with
      | nil => rfl
      | cons address rest ih => exact ih (link.deleteAddress promotes address)

theorem after_contents (promotes : Bool) (name : String) (link : Link) (effect : Effect) :
    (link.after promotes name effect).map contents =
      link.contents.after promotes name effect := by
  cases effect with
  | virtualAddressAction action addresses iface =>
      by_cases same : iface = name
      · simp [after, same, address_action_contents]
      · simp [after, same]
  | deleteMacVlan deleted =>
      have count : link.contents.remainingAddressCount = link.remainingAddressCount := rfl
      simp only [after, count]
      split_ifs <;> rfl
  | _ => rfl

end Link

namespace Host

/-- The links of these names and their settings are the same, but for the order in which
the links came. -/
structure AgreesOn (names : String → Prop) (left right : Host) : Prop where
  settings : left.promotesSecondaries = right.promotesSecondaries
  links : ∀ name, names name →
    (left.link name).map Link.contents = (right.link name).map Link.contents

variable {names : String → Prop} {left right : Host}

theorem AgreesOn.interface (agrees : left.AgreesOn names right) {name : String}
    (named : names name) (now setAt : Instant) :
    (left.env now setAt).getInterface name = (right.env now setAt).getInterface name := by
  have same := agrees.links name named
  rw [get_interface_env, get_interface_env]
  cases found : left.link name with
  | none =>
      rw [found, Option.map_none, eq_comm, Option.map_eq_none_iff] at same
      rw [same]
  | some link =>
      rw [found, Option.map_some, eq_comm, Option.map_eq_some_iff] at same
      obtain ⟨other, present, contents⟩ := same
      rw [present]
      have shown := congrArg (Link.interface name) contents
      exact congrArg Except.ok shown.symm

theorem AgreesOn.perform_all (agrees : left.AgreesOn names right) (effects : List Effect) :
    (left.performAll effects).AgreesOn names (right.performAll effects) := by
  induction effects generalizing left right with
  | nil => exact agrees
  | cons effect rest ih =>
      apply ih
      constructor
      · rw [(left.perform_fixed effect).1, (right.perform_fixed effect).1]
        exact agrees.settings
      · intro name named
        have through (host : Host) : ((host.perform effect).link name).map Link.contents =
            ((host.link name).map Link.contents).bind fun link =>
              link.after (host.promotesSecondaries name) name effect := by
          rw [link_perform]
          cases host.link name with
          | none => rfl
          | some link => exact link.after_contents (host.promotesSecondaries name) name effect
        rw [through, through, agrees.links name named, agrees.settings]

theorem AgreesOn.autoconfigure (agrees : left.AgreesOn names right) (iface : String)
    (net : Ipv6Net) : (left.autoconfigure iface net).AgreesOn names
      (right.autoconfigure iface net) :=
  agrees.perform_all [.virtualAddressAction .add [.v6 net] iface]

theorem AgreesOn.create_mac_vlan (agrees : left.AgreesOn names right) {parentIfname : String}
    (parent : left.link parentIfname = right.link parentIfname) {vrid : UInt8}
    {family : AddressFamily} (named : names (macVlanName parentIfname vrid family)) :
    (∃ error, left.createMacVlan parentIfname vrid family = .error error ∧
      right.createMacVlan parentIfname vrid family = .error error) ∨
    ∃ first second, left.createMacVlan parentIfname vrid family =
        .ok (first, macVlanName parentIfname vrid family) ∧
      right.createMacVlan parentIfname vrid family =
        .ok (second, macVlanName parentIfname vrid family) ∧ first.AgreesOn names second := by
  have same := agrees.links _ named
  simp only [createMacVlan, parent]
  cases above : right.link parentIfname with
  | none => exact .inl ⟨_, rfl, rfl⟩
  | some parentLink =>
      cases existing : left.link (macVlanName parentIfname vrid family) with
      | none =>
          rw [existing, Option.map_none, eq_comm, Option.map_eq_none_iff] at same
          simp only [same]
          refine .inr ⟨_, _, rfl, rfl, agrees.settings, ?_⟩
          intro name member
          rw [link_add_link, link_add_link]
          split_ifs
          · rfl
          · exact agrees.links name member
      | some link =>
          rw [existing, Option.map_some, eq_comm, Option.map_eq_some_iff] at same
          obtain ⟨other, present, contents⟩ := same
          obtain ⟨isMacVlan, mac, parentIndex, _⟩ := Link.contents_eq contents
          simp only [present, isMacVlan, mac, parentIndex]
          split_ifs
          · exact .inl ⟨_, rfl, rfl⟩
          · exact .inl ⟨_, rfl, rfl⟩
          · exact .inl ⟨_, rfl, rfl⟩
          · exact .inr ⟨_, _, rfl, rfl, agrees⟩

end Host

namespace Session

variable {fromStr : String → Option IpNet} {conf : Config} {left right : Host}
  {session : Session} {now setAt : Instant} {move : Move} {names : String → Prop}

/-- The lookup behind `create_mac_vlan` is that of the created mac-vlan. -/
def Checks (session : Session) : Prop :=
  ∀ v6Name, session.phase = .checkV6 v6Name →
    session.inst.vrouter.macVlanInterfaceV6 = some v6Name

theorem checks_step (session : Session) (host : Host) (now setAt : Instant) (move : Move)
    (checks : session.Checks) : (session.step host now setAt move).2.1.Checks := by
  have course := session.step_course host now setAt move
  generalize (session.step host now setAt move).1 = next at course
  generalize (session.step host now setAt move).2.1 = after at course ⊢
  intro v6Name phase
  cases course with
  | idle => exact checks v6Name phase
  | createV6 =>
      obtain rfl := Phase.checkV6.inj phase
      rfl
  | checkV4 =>
      simp only at phase
      split_ifs at phase
  | startup =>
      simp only at phase
      split_ifs at phase
  | _ => contradiction

theorem step_handled {input : Input} (brought : session.brings move = some input)
    (handled : session.inst.vrouter.handle (left.env now setAt) input =
      session.inst.vrouter.handle (right.env now setAt) input) :
    (session.step left now setAt move).2 = (session.step right now setAt move).2 := by
  have stepped := Instance.step_alike handled
  cases move with
  | advance =>
      simp only [brings] at brought
      split at brought
      · rename_i phase
        cases brought
        have result : session.inst.vrouter.notifyMut (left.env now setAt) .startup =
            session.inst.vrouter.notifyMut (right.env now setAt) .startup := handled
        simp only [step, advance, phase, stepped, result]
      · contradiction
  | handle moved =>
      simp only [brings] at brought
      split at brought
      · rename_i timer leaving phase
        split_ifs at brought with task
        cases brought
        have survives := Instance.survives_alike handled
        simp only [step, phase, serve, stepped, survives]
        split_ifs with stop served
        · rfl
        · rfl
        · exact absurd task (not_or.mpr ⟨stop, served⟩)
      · contradiction
  | finish => contradiction

theorem Ready.advance_alike (ready : Ready fromStr conf left session) (checks : session.Checks)
    (quiet : session.phase ≠ .startup) (agrees : left.AgreesOn names right)
    (parent : left.link conf.interfaceName = right.link conf.interfaceName)
    (owns : ∀ family, names (macVlanName conf.interfaceName conf.vrid family)) :
    (session.step left now setAt .advance).2 = (session.step right now setAt .advance).2 ∧
      (session.step left now setAt .advance).1.AgreesOn names
        (session.step right now setAt .advance).1 := by
  have follows := ready.follows
  simp only [Session.step, advance]
  cases phase : session.phase with
  | startup => exact absurd phase quiet
  | lookup =>
      simp only [Follows, phase] at follows
      have network : session.inst.vrouter.networkInterface = conf.interfaceName := by
        rw [follows]
        rfl
      have found : (left.env now setAt).getInterface conf.interfaceName =
          (right.env now setAt).getInterface conf.interfaceName := by
        rw [Host.get_interface_env, Host.get_interface_env, parent]
      simp only [network, found]
      cases (right.env now setAt).getInterface conf.interfaceName with
      | error error => exact ⟨rfl, agrees⟩
      | ok interface =>
          cases first : primaryIpv4 interface with
          | error error => simp [bind, Except.bind, first, agrees]
          | ok primaryIp => simp [bind, Except.bind, first, agrees]
  | createV4 parentInterface =>
      simp only [Follows, phase] at follows
      obtain ⟨name, primaryIp, inst⟩ := follows
      have vrid : session.inst.vrouter.vrid = conf.vrid := by
        rw [inst]
        rfl
      have named : parentInterface.name = conf.interfaceName := name
      simp only [named, vrid]
      obtain ⟨error, first, second⟩ | ⟨leftNext, rightNext, first, second, next⟩ :=
        agrees.create_mac_vlan parent (owns .v4)
      · simp [first, second, bind, Except.bind, agrees]
      · simp [first, second, bind, Except.bind, next]
  | checkV4 parentInterface =>
      simp only [Follows, phase] at follows
      obtain ⟨name, primaryIp, inst⟩ := follows
      have named : session.inst.vrouter.macVlanInterfaceV4 =
          macVlanName conf.interfaceName conf.vrid .v4 := by
        rw [inst]
        change macVlanName parentInterface.name conf.vrid .v4 = _
        rw [name]
        rfl
      simp only [named, agrees.interface (owns .v4) now setAt]
      cases (right.env now setAt).getInterface
        (macVlanName conf.interfaceName conf.vrid .v4) <;> exact ⟨rfl, agrees⟩
  | createV6 parentInterface =>
      simp only [Follows, phase] at follows
      obtain ⟨name, version, primaryIp, inst⟩ := follows
      have vrid : session.inst.vrouter.vrid = conf.vrid := by
        rw [inst]
        rfl
      have named : parentInterface.name = conf.interfaceName := name
      simp only [named, vrid]
      obtain ⟨error, first, second⟩ | ⟨leftNext, rightNext, first, second, next⟩ :=
        agrees.create_mac_vlan parent (owns .v6)
      · simp [first, second, bind, Except.bind, agrees]
      · simp [first, second, bind, Except.bind, next]
  | checkV6 v6Name =>
      have side := checks v6Name phase
      simp only [Follows, phase] at follows
      obtain ⟨_, _, names⟩ := prepares_linked follows
      have named : v6Name = macVlanName conf.interfaceName conf.vrid .v6 :=
        (names .v6 v6Name side).1
      simp only [named, agrees.interface (owns .v6) now setAt]
      cases (right.env now setAt).getInterface
        (macVlanName conf.interfaceName conf.vrid .v6) <;> exact ⟨rfl, agrees⟩
  | serving timer leaving => exact ⟨rfl, agrees⟩
  | ended result => exact ⟨rfl, agrees⟩

/-- A call of `run` on two hosts that it cannot tell apart. -/
theorem Ready.step_alike (ready : Ready fromStr conf left session) (checks : session.Checks)
    (agrees : left.AgreesOn names right)
    (parent : left.link conf.interfaceName = right.link conf.interfaceName)
    (owns : ∀ family, names (macVlanName conf.interfaceName conf.vrid family))
    (filter : ∀ input, session.brings move = some input → ∀ address,
      input.source = some address →
        (left.env now setAt).isLocal address = (right.env now setAt).isLocal address) :
    (session.step left now setAt move).2 = (session.step right now setAt move).2 ∧
      (session.step left now setAt move).1.AgreesOn names
        (session.step right now setAt move).1 := by
  cases brought : session.brings move with
  | some input =>
      have prepares := ready.prepares (brings_running brought)
      have alike : (left.env now setAt).Alike session.inst.vrouter (right.env now setAt) := by
        refine ⟨rfl, rfl, ?_⟩
        intro family iface side
        rw [((prepares_linked prepares).2.2 family iface side).1]
        exact agrees.interface (owns family) now setAt
      have handled := handle_alike alike (filter input brought)
      refine ⟨step_handled brought handled, ?_⟩
      rw [step_brings brought, step_brings brought, Instance.step_alike handled]
      exact agrees.perform_all _
  | none =>
      cases move with
      | advance =>
          apply ready.advance_alike checks _ agrees parent owns
          intro phase
          simp [brings, phase] at brought
      | handle input =>
          cases phase : session.phase with
          | serving timer leaving =>
              simp only [brings, phase, ite_eq_right_iff, reduceCtorEq, imp_false,
                not_or] at brought
              simp only [Session.step, phase, if_neg brought.1, if_neg brought.2]
              exact ⟨trivial, agrees⟩
          | _ =>
              simp only [Session.step, phase]
              exact ⟨trivial, agrees⟩
      | finish =>
          simp only [Session.step]
          split <;> exact ⟨rfl, agrees⟩

end Session

namespace Host

theorem is_local_env (host : Host) (now setAt : Instant) (address : IpAddr) :
    (host.env now setAt).isLocal address = true ↔
      ∃ iface net, host.Holds iface net ∧ net.addr = address := by
  rw [is_local_iff]
  constructor
  · rintro ⟨interface, member, net, listed, same⟩
    obtain ⟨⟨iface, link⟩, entry, rfl⟩ := List.mem_map.mp member
    exact ⟨iface, net, ⟨link, AList.mem_lookup_iff.mpr entry, listed⟩, same⟩
  · rintro ⟨iface, net, ⟨link, found, listed⟩, same⟩
    have entry := AList.mem_lookup_iff.mp found
    exact ⟨_, List.mem_map.mpr ⟨_, entry, rfl⟩, net, listed, same⟩

theorem AgreesOn.holds {names : String → Prop} {left right : Host}
    (agrees : left.AgreesOn names right) {iface : String} (named : names iface) (net : IpNet) :
    left.Holds iface net ↔ right.Holds iface net := by
  have through (host : Host) : host.Holds iface net ↔
      ∃ link, (host.link iface).map Link.contents = some link ∧ net ∈ link.ips := by
    constructor
    · intro ⟨link, found, listed⟩
      exact ⟨link.contents, by rw [found]; rfl, listed⟩
    · intro ⟨contents, found, listed⟩
      obtain ⟨link, present, rfl⟩ := Option.map_eq_some_iff.mp found
      exact ⟨link, present, listed⟩
  rw [through, through, agrees.links iface named]

end Host

/-- The instance takes part, or the kernel acts. -/
def Occurrence.concerns {Name : Type*} [DecidableEq Name] (name : Name) : Occurrence Name → Bool
  | .run mover _ _ _ => mover = name
  | .autoconfigure _ _ => true

namespace Daemon

variable {Name : Type*}

def OfAnother (conf : Name → Config) (name : Name) (iface : String) : Prop :=
  ∃ other, other ≠ name ∧ ∃ family,
    iface = macVlanName (conf other).interfaceName (conf other).vrid family

/-- The instance is brought no advertisement from an address that another instance has on
one of its mac-vlans. -/
def Unmistaken (conf : Name → Config) (name : Name) (daemon : Daemon Name) :
    Occurrence Name → Prop
  | .run mover _ _ (.handle input) => mover = name → ∀ address, input.source = some address →
      ∀ iface net, OfAnother conf name iface → daemon.host.Holds iface net → net.addr ≠ address
  | _ => True

/-- The host with all its instances and the host on which only this one moves, as far as
this one can see. -/
structure Alike (fromStr : String → Option IpNet) (conf : Name → Config) (name : Name)
    (full kept : Daemon Name) : Prop where
  ready : Ready fromStr conf full
  readyKept : Ready fromStr conf kept
  session : full.sessions name = kept.sessions name
  checks : (full.sessions name).Checks
  links : full.host.AgreesOn (fun iface => ¬ OfAnother conf name iface) kept.host
  parent : full.host.link (conf name).interfaceName = kept.host.link (conf name).interfaceName
  absent : ∀ iface, OfAnother conf name iface → ¬ kept.host.Has iface

variable [DecidableEq Name] {fromStr : String → Option IpNet} {conf : Name → Config} {name : Name}

omit [DecidableEq Name] in
theorem own_not_of_another
    (alone : ∀ other, other ≠ name → (conf other).vrid ≠ (conf name).vrid)
    (family : AddressFamily) :
    ¬ OfAnother conf name (macVlanName (conf name).interfaceName (conf name).vrid family) := by
  intro ⟨other, different, otherFamily, clash⟩
  exact alone other different (mac_vlan_name_vrid clash).symm

omit [DecidableEq Name] in
theorem Alike.filter {full kept : Daemon Name} (alike : Alike fromStr conf name full kept)
    {input : Input} {now setAt : Instant}
    (unmistaken : ∀ address, input.source = some address → ∀ iface net,
      OfAnother conf name iface → full.host.Holds iface net → net.addr ≠ address)
    (address : IpAddr) (source : input.source = some address) :
    (full.host.env now setAt).isLocal address = (kept.host.env now setAt).isLocal address := by
  rw [Bool.eq_iff_iff, Host.is_local_env, Host.is_local_env]
  constructor
  · rintro ⟨iface, net, holds, same⟩
    have own : ¬ OfAnother conf name iface :=
      fun another => unmistaken address source iface net another holds same
    exact ⟨iface, net, (alike.links.holds own net).mp holds, same⟩
  · rintro ⟨iface, net, holds, same⟩
    have own : ¬ OfAnother conf name iface :=
      fun another => alike.absent iface another holds.has
    exact ⟨iface, net, (alike.links.holds own net).mpr holds, same⟩

theorem Alike.ignores (parent : Foreign conf (conf name).interfaceName) {full kept : Daemon Name}
    (alike : Alike fromStr conf name full kept) {occurrence : Occurrence Name}
    (other : occurrence.concerns name = false) :
    Alike fromStr conf name (machine.step full occurrence).1 kept := by
  have ready := ready_step full occurrence alike.ready
  cases occurrence with
  | autoconfigure target net => contradiction
  | run mover now setAt move =>
      have different : mover ≠ name := of_decide_eq_false other
      have same : (machine.step full (.run mover now setAt move)).1.sessions name =
          full.sessions name := by
        simp only [machine, Function.update_of_ne (Ne.symm different)]
      have kept {iface : String} (own : ∀ family, iface ≠
          macVlanName (conf mover).interfaceName (conf mover).vrid family) :
          (machine.step full (.run mover now setAt move)).1.host.link iface =
            full.host.link iface :=
        (alike.ready mover).link_kept own now setAt move
      constructor
      · exact ready
      · exact alike.readyKept
      · rw [same]
        exact alike.session
      · rw [same]
        exact alike.checks
      · constructor
        · exact (Session.step_settings _ _ now setAt move).trans alike.links.settings
        · intro iface own
          rw [kept fun family clash => own ⟨mover, different, family, clash⟩]
          exact alike.links.links iface own
      · rw [kept fun family => parent mover family]
        exact alike.parent
      · exact alike.absent

theorem Alike.agrees (alone : ∀ other, other ≠ name → (conf other).vrid ≠ (conf name).vrid)
    (parent : Foreign conf (conf name).interfaceName) {full kept : Daemon Name}
    (alike : Alike fromStr conf name full kept) {occurrence : Occurrence Name}
    (unmistaken : Unmistaken conf name full occurrence)
    (own : occurrence.concerns name = true) :
    Alike fromStr conf name (machine.step full occurrence).1 (machine.step kept occurrence).1 ∧
      (machine.step full occurrence).2 = (machine.step kept occurrence).2 := by
  have ready := ready_step full occurrence alike.ready
  have readyKept := ready_step kept occurrence alike.readyKept
  cases occurrence with
  | autoconfigure target net =>
      refine ⟨?_, rfl⟩
      constructor
      · exact ready
      · exact readyKept
      · exact alike.session
      · exact alike.checks
      · exact alike.links.autoconfigure target net
      · exact Host.link_autoconfigure_congr alike.parent target net
      · intro iface another
        exact fun has => alike.absent iface another ((Host.has_autoconfigure _ _ _ net).mp has)
  | run mover now setAt move =>
      obtain rfl : mover = name := of_decide_eq_true own
      have filter (input : Input) (brought : (full.sessions mover).brings move = some input) :
          ∀ address, input.source = some address →
            (full.host.env now setAt).isLocal address =
              (kept.host.env now setAt).isLocal address := by
        cases move with
        | advance =>
            rw [Session.brings_advance brought]
            simp [Input.source]
        | handle moved =>
            rw [Session.brings_handle brought]
            exact alike.filter (unmistaken rfl)
        | finish => contradiction
      obtain ⟨same, links⟩ := (alike.ready mover).step_alike alike.checks alike.links alike.parent
        (own_not_of_another alone) filter
      have apart (daemon : Daemon Name) (ready : Ready fromStr conf daemon) {iface : String}
          (other : ∀ family, iface ≠
            macVlanName (conf mover).interfaceName (conf mover).vrid family) :
          (machine.step daemon (.run mover now setAt move)).1.host.link iface =
            daemon.host.link iface :=
        (ready mover).link_kept other now setAt move
      have moved (daemon : Daemon Name) :
          (machine.step daemon (.run mover now setAt move)).1.sessions mover =
            ((daemon.sessions mover).step daemon.host now setAt move).2.1 := by
        simp only [machine, Function.update_self]
      constructor
      · constructor
        · exact ready
        · exact readyKept
        · rw [moved, moved, ← alike.session]
          exact congrArg Prod.fst same
        · rw [moved]
          exact Session.checks_step _ _ now setAt move alike.checks
        · change Host.AgreesOn _ ((full.sessions mover).step full.host now setAt move).1
            ((kept.sessions mover).step kept.host now setAt move).1
          rw [← alike.session]
          exact links
        · rw [apart full alike.ready (parent mover), apart kept alike.readyKept (parent mover)]
          exact alike.parent
        · intro iface another has
          apply alike.absent iface another
          rwa [Host.Has, apart kept alike.readyKept] at has
          intro family clash
          rw [clash] at another
          exact own_not_of_another alone family another
      · change ((full.sessions mover).step full.host now setAt move).2.2 =
          ((kept.sessions mover).step kept.host now setAt move).2.2
        rw [← alike.session]
        exact congrArg Prod.snd same

/-- An instance whose VRID is used once takes the same course on a host with others as on
a host where none of them does anything, and so does every link that is not theirs, as
long as it is brought no advertisement from an address that one of them has taken, and
nothing was stacked on a mac-vlan of the daemon at first. -/
theorem others_unnoticed (fromStr : String → Option IpNet) (conf : Name → Config) {name : Name}
    (alone : ∀ other, other ≠ name → (conf other).vrid ≠ (conf name).vrid)
    (parents : ∀ other, Foreign conf (conf other).interfaceName) {host : Host}
    (absent : ∀ iface, OfAnother conf name iface → ¬ host.Has iface)
    (layered : host.Layered fun iface => ¬ Foreign conf iface)
    {occurrences : List (Occurrence Name)}
    (unmistaken : cascading.AllSteps (Unmistaken conf name) (start fromStr conf host)
      occurrences) :
    let full := cascading.after (start fromStr conf host) occurrences
    let own := occurrences.filter (Occurrence.concerns name)
    let kept := cascading.after (start fromStr conf host) own
    full.sessions name = kept.sessions name ∧
      cascading.observed (Occurrence.concerns name) (start fromStr conf host) occurrences =
        cascading.outputs (start fromStr conf host) own ∧
      full.host.AgreesOn (fun iface => ¬ OfAnother conf name iface) kept.host := by
  intro full own kept
  let own (iface : String) : Prop := ¬ Foreign conf iface
  have begins : Alike fromStr conf name (start fromStr conf host) (start fromStr conf host) := by
    constructor
    · exact start_ready host
    · exact start_ready host
    · rfl
    · simp [Session.Checks, start, Session.new]
    · exact ⟨rfl, fun _ _ => rfl⟩
    · rfl
    · exact absent
  -- Neither host ever has anything that the kernel would delete besides.
  let related (full kept : Daemon Name) : Prop :=
    Alike fromStr conf name full kept ∧ full.host.Layered own ∧ kept.host.Layered own
  have ignores (full kept : Daemon Name) (occurrence : Occurrence Name)
      (before : related full kept) (_ : Unmistaken conf name full occurrence)
      (other : occurrence.concerns name = false) :
      related (cascading.step full occurrence).1 kept := by
    obtain ⟨alike, layered, keptLayered⟩ := before
    obtain ⟨stepped, next⟩ := cascading_step parents alike.ready layered occurrence
    rw [stepped]
    exact ⟨alike.ignores (parents name) other, next, keptLayered⟩
  have agrees (full kept : Daemon Name) (occurrence : Occurrence Name)
      (before : related full kept) (met : Unmistaken conf name full occurrence)
      (takes : occurrence.concerns name = true) :
      related (cascading.step full occurrence).1 (cascading.step kept occurrence).1 ∧
        (cascading.step full occurrence).2 = (cascading.step kept occurrence).2 := by
    obtain ⟨alike, layered, keptLayered⟩ := before
    obtain ⟨stepped, next⟩ := cascading_step parents alike.ready layered occurrence
    obtain ⟨keptStepped, keptNext⟩ :=
      cascading_step parents alike.readyKept keptLayered occurrence
    obtain ⟨nextAlike, same⟩ := alike.agrees alone (parents name) met takes
    rw [stepped, keptStepped]
    exact ⟨⟨nextAlike, next, keptNext⟩, same⟩
  obtain ⟨⟨alike, _⟩, emitted⟩ :=
    cascading.unwinding ignores agrees ⟨begins, layered, layered⟩ unmistaken
  exact ⟨alike.session, emitted, alike.links⟩

end Daemon

namespace Sample

/-- A Backup, and the owner of the same address under another VRID. -/
def twoInstances : Bool → Config
  | true => config .v2 100
  | false => { config .v2 255 with vrid := 52 }

/-- They start in turns, and the Backup hears its Master and ticks. -/
def startInTurns : List (Occurrence Bool) :=
  (List.replicate 4 [.run true 0 0 .advance, .run false 0 0 .advance]).flatten ++
    [.run true 1 1 (.handle (.vrrpV4 (router .v2 200 20).ipv4Advert)),
      .run true 1 1 (.handle .tick)]

theorem eth0_foreign : Daemon.Foreign twoInstances "eth0" := by
  intro name family
  cases name <;> cases family <;> decide +kernel

/-- The owner has taken its address by then, and no other. -/
theorem master_not_mistaken :
    Daemon.cascading.AllSteps (Daemon.Unmistaken twoInstances true)
      (Daemon.start parseNet twoInstances host) startInTurns := by
  have taken (family : AddressFamily) :
      ((Daemon.cascading.after (Daemon.start parseNet twoInstances host)
        (startInTurns.take 8)).host.link (macVlanName "eth0" 52 family)).all (fun link =>
          link.ips.all fun net => net.addr ≠ .v4 (ipv4 20)) = true := by
    cases family <;> decide +kernel
  refine ⟨trivial, trivial, trivial, trivial, trivial, trivial, trivial, trivial, ?_,
    fun _ _ source => by simp [Input.source] at source, trivial⟩
  rintro _ address source iface net ⟨other, different, family, rfl⟩ ⟨link, found, listed⟩
  obtain rfl := Option.some.inj source
  cases other with
  | true => exact absurd rfl different
  | false =>
      have checked := (Option.all_eq_true _ _).mp (taken family) link found
      exact of_decide_eq_true (List.all_eq_true.mp checked net listed)

end Sample

namespace Daemon

theorem owner_unnoticed :
    let full := cascading.after (start Sample.parseNet Sample.twoInstances Sample.host)
      Sample.startInTurns
    let kept := cascading.after (start Sample.parseNet Sample.twoInstances Sample.host)
      (Sample.startInTurns.filter (Occurrence.concerns true))
    full.sessions true = kept.sessions true ∧
      (full.host.link "eth0").map Link.contents = (kept.host.link "eth0").map Link.contents := by
  have alone : ∀ other, other ≠ true →
      (Sample.twoInstances other).vrid ≠ (Sample.twoInstances true).vrid := by decide
  have absent : ∀ iface, OfAnother Sample.twoInstances true iface → ¬ Sample.host.Has iface := by
    rintro iface ⟨other, different, family, rfl⟩
    cases other with
    | true => exact absurd rfl different
    | false => cases family <;> decide +kernel
  have parents : ∀ other, Foreign Sample.twoInstances (Sample.twoInstances other).interfaceName :=
    fun other => by cases other <;> exact Sample.eth0_foreign
  have same := others_unnoticed Sample.parseNet Sample.twoInstances alone parents absent
    (Sample.host_layered _ (not_not.mpr Sample.eth0_foreign)) Sample.master_not_mistaken
  exact ⟨same.1, same.2.2.links "eth0" fun ⟨other, _, family, clash⟩ =>
    Sample.eth0_foreign other family clash⟩

end Daemon

end Failover
