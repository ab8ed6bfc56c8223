import Failover.Detection
import Failover.Library.Pace

/-!
# How often a Master advertises

The timer task of a Master looks once a second whether the advertisement interval since
its last advertisement is over, and the deadline itself is not over. So a Master whose
interval is a whole number of seconds sends once in that time or in a second more.
-/

namespace Failover

open Library VirtualRouter

set_option autoImplicit false

def Effect.Advertises (iface : String) : Effect → Bool
  | .sendVrrpPacketV4 ifname _ _ => ifname = iface
  | _ => false

theorem VirtualRouter.count_advertisement (vrouter : VirtualRouter) :
    vrouter.sendAdvertisement.countP (Effect.Advertises vrouter.macVlanInterfaceV4) = 1 := by
  unfold sendAdvertisement
  cases vrouter.macVlanInterfaceV6 <;> cases vrouter.primaryIpV6 <;>
    simp [Effect.Advertises]

namespace Instance

variable {inst : Instance} {env : Env} {input : Input}

theorem step_unheard_calls (sound : inst.poisoned = false)
    (unnotified : ∀ event, input ≠ .notify event) (untimed : input ≠ .tick)
    (nothing : inst.vrouter.heard env input = none) :
    ∀ effect ∈ (inst.step env input).2, ¬ effect.IsAdvertisement := by
  have transition := step_transition sound env input
  generalize (inst.step env input).1.vrouter = next at transition
  generalize (inst.step env input).1.poisoned = panicked at transition
  generalize (inst.step env input).2 = effects at transition
  have calm {event : Event} (fires : Fires env inst.vrouter input event) : False := by
    cases fires with
    | notify => exact unnotified event rfl
    | tick => exact untimed rfl
  have unheard {packet : VrrpPacket} (hears : inst.vrouter.heard env input = some packet) :
      False := by
    rw [nothing] at hears
    contradiction
  cases transition with
  | silent => simp
  | neighbor _ replies =>
      exact fun effect member => neighbor_not_advertisement (replies effect member)
  | panics fires => exact (calm fires).elim
  | takesOver fires => exact (calm fires).elim
  | starts fires => exact (calm fires).elim
  | stopsInit fires => exact (calm fires).elim
  | stopsBackup fires => exact (calm fires).elim
  | stopsMaster fires => exact (calm fires).elim
  | advertises => exact absurd rfl untimed
  | hearsLeaving hears => exact (unheard hears).elim
  | defers hears => exact (unheard hears).elim
  | preempts hears => exact (unheard hears).elim
  | answers hears => exact (unheard hears).elim
  | yields _ hears => exact (unheard hears).elim

end Instance

namespace Session

variable {fromStr : String → Option IpNet} {conf : Config} {host : Host} {session : Session}
  {now setAt deadline : Instant} {move : Move}

/-- A running Master that advertises after this time. -/
structure Advertising (deadline : Instant) (session : Session) : Prop where
  running : session.Running
  state : session.inst.vrouter.fsm.state = .master
  waiting : session.inst.vrouter.fsm.timer.waitingFor = some deadline

theorem Advertising.type (advertising : session.Advertising deadline)
    (ready : Ready fromStr conf host session) :
    session.inst.vrouter.fsm.timer.tType = .adver := by
  have matched := ready.matched
  unfold VirtualRouterMachine.Matched at matched
  rw [advertising.state] at matched
  exact matched.1

theorem Advertising.step_due (advertising : session.Advertising deadline)
    (ready : Ready fromStr conf host session) (attached : session.Attached conf host)
    (late : deadline < now) :
    let stepped := session.step host now setAt (.handle .tick)
    stepped.2.1.Advertising (setAt + session.inst.vrouter.advertInterval.toNat) ∧
      stepped.2.2 = session.inst.vrouter.sendAdvertisement := by
  intro stepped
  have due : session.inst.Due (host.env now setAt) .adver :=
    (Instance.due_iff ready.sound (advertising.type ready) advertising.waiting).mpr late
  have brought := advertising.running.handles_tick
  have inst := step_inst brought host now setAt
  have effects := step_calls session host now setAt (.handle .tick)
  rw [brought] at effects
  simp only at effects
  rw [Instance.step_tick_advertises due] at inst effects
  have silent := session.silent_tick (host.env now setAt)
  have stays := advertising.running.stays_master advertising.state ready attached silent
  exact ⟨⟨stays.1, stays.2, by rw [inst]; rfl⟩, effects⟩

theorem Advertising.step_waits (advertising : session.Advertising deadline)
    (ready : Ready fromStr conf host session) (attached : session.Attached conf host)
    (silent : session.Silent (host.env now setAt) move)
    (early : ¬ (move = .handle .tick ∧ deadline < now)) :
    let stepped := session.step host now setAt move
    stepped.2.1.Advertising deadline ∧ ∀ effect ∈ stepped.2.2, ¬ effect.IsAdvertisement := by
  intro stepped
  have stays := advertising.running.stays_master advertising.state ready attached silent
  have inst := (step_underway (.inl advertising.running.serves) host now setAt move).2
  have effects := step_calls session host now setAt move
  cases brought : session.brings move with
  | none =>
      rw [brought] at inst effects
      refine ⟨⟨stays.1, stays.2, ?_⟩, ?_⟩
      · rw [inst]
        exact advertising.waiting
      · rw [show stepped.2.2 = _ from effects]
        simp
  | some input =>
      rw [brought] at inst effects
      simp only at inst effects
      by_cases tick : input = .tick
      · subst tick
        have notDue : ¬ session.inst.Due (host.env now setAt) .adver := by
          rw [Instance.due_iff ready.sound (advertising.type ready) advertising.waiting]
          exact fun late => early ⟨advertising.running.handles brought, late⟩
        have notDown : ¬ session.inst.Due (host.env now setAt) .masterDown := by
          intro due
          have other := Instance.due_type due
          rw [advertising.type ready] at other
          contradiction
        rw [Instance.step_tick_waits notDown notDue] at inst effects
        refine ⟨⟨stays.1, stays.2, ?_⟩, ?_⟩
        · rw [inst]
          exact advertising.waiting
        · rw [show stepped.2.2 = _ from effects]
          simp
      · have unnotified := advertising.running.unnotified brought (silent input brought).1
        have same := Instance.step_unheard (host.env now setAt) unnotified tick
          (silent input brought).2
        refine ⟨⟨stays.1, stays.2, ?_⟩, ?_⟩
        · rw [inst, same]
          exact advertising.waiting
        · rw [show stepped.2.2 = _ from effects]
          exact Instance.step_unheard_calls ready.sound unnotified tick (silent input brought).2

end Session

theorem Effect.count_advertises_zero {effects : List Effect} {iface : String}
    (none : ∀ effect ∈ effects, ∀ srcIp packet, effect ≠ .sendVrrpPacketV4 iface srcIp packet) :
    effects.countP (Effect.Advertises iface) = 0 := by
  apply List.countP_eq_zero.mpr
  intro effect member advertises
  cases effect with
  | sendVrrpPacketV4 ifname srcIp packet =>
      have same : ifname = iface := of_decide_eq_true advertises
      exact none _ member srcIp packet (by rw [same])
  | _ => contradiction

namespace Daemon

variable {Name : Type*} [DecidableEq Name] {fromStr : String → Option IpNet} {conf : Name → Config}
  {name : Name} {daemon : Daemon Name} {deadline : Instant}

/-- The IPv4 advertisements that leave by the mac-vlan of the instance. -/
def advertsSent (conf : Name → Config) (name : Name) (effects : List Effect) : ℕ :=
  effects.countP (Effect.Advertises (macVlanName (conf name).interfaceName (conf name).vrid .v4))

omit [DecidableEq Name] in
theorem adverts_of_other {mover : Name}
    (alone : ∀ other, other ≠ name → (conf other).vrid ≠ (conf name).vrid)
    (different : mover ≠ name) (ready : Ready fromStr conf daemon) (now setAt : Instant)
    (move : Move) : advertsSent conf name
      ((daemon.sessions mover).step daemon.host now setAt move).2.2 = 0 := by
  apply Effect.count_advertises_zero
  rintro effect member srcIp packet rfl
  obtain ⟨prepares, within, _⟩ := (ready mover).calls now setAt move _ member
  obtain ⟨side, _⟩ := within
  have named := ((Session.prepares_linked prepares).2.2 .v4 _ side).1
  exact alone mover different (mac_vlan_name_vrid named).symm

theorem advertising_step
    (alone : ∀ other, other ≠ name → (conf other).vrid ≠ (conf name).vrid)
    (ready : Ready fromStr conf daemon)
    (attached : (daemon.sessions name).Attached (conf name) daemon.host)
    (advertising : (daemon.sessions name).Advertising deadline) {occurrence : Occurrence Name}
    (silent : Silence name daemon occurrence) :
    ∃ next, ((machine.step daemon occurrence).1.sessions name).Advertising next ∧
      ∀ rest, fired ((conf name).advertInterval.toNat : Instant) deadline
          (looks name occurrence ++ rest) =
        advertsSent conf name (machine.step daemon occurrence).2 +
          fired ((conf name).advertInterval.toNat : Instant) next rest := by
  cases occurrence with
  | autoconfigure iface net =>
      refine ⟨deadline, advertising, fun rest => ?_⟩
      exact (Nat.zero_add _).symm
  | run mover now setAt move =>
      have stepped := session_step daemon name mover now setAt move
      by_cases same : mover = name
      · subst same
        rw [if_pos rfl] at stepped
        rw [stepped]
        have prepares := (ready mover).prepares (.inr advertising.running.serves)
        have link := Session.prepares_v4 prepares
        obtain ⟨parent, primaryIp, _, runs⟩ := prepares
        have interval : (daemon.sessions mover).inst.vrouter.advertInterval =
            (conf mover).advertInterval := runs.advert_interval
        by_cases due : move = .handle .tick ∧ deadline < now
        · obtain ⟨rfl, late⟩ := due
          obtain ⟨still, sends⟩ := advertising.step_due (ready mover) attached late
          rw [interval] at still
          refine ⟨setAt + (conf mover).advertInterval.toNat, still, fun rest => ?_⟩
          have one : advertsSent conf mover
              (machine.step daemon (.run mover now setAt (.handle .tick))).2 = 1 := by
            simp only [machine, advertsSent, sends]
            rw [← VirtualRouter.count_advertisement (daemon.sessions mover).inst.vrouter, link]
            rfl
          have look : looks mover (.run mover now setAt (.handle .tick)) = [(now, setAt)] :=
            if_pos ⟨rfl, rfl⟩
          rw [one, look, List.singleton_append, fired, if_pos late, Nat.add_comm]
        · obtain ⟨still, sends⟩ :=
            advertising.step_waits (ready mover) attached (silent rfl) due
          refine ⟨deadline, still, fun rest => ?_⟩
          have nothing : advertsSent conf mover
              (machine.step daemon (.run mover now setAt move)).2 = 0 := by
            apply Effect.count_advertises_zero
            rintro effect member srcIp packet rfl
            exact sends _ member trivial
          rw [nothing, Nat.zero_add, looks]
          split_ifs with tick
          · rw [List.singleton_append, fired, if_neg fun late => due ⟨tick.2, late⟩]
          · rfl
      · rw [if_neg same] at stepped
        rw [stepped]
        refine ⟨deadline, advertising, fun rest => ?_⟩
        have nothing : advertsSent conf name
            (machine.step daemon (.run mover now setAt move)).2 = 0 :=
          adverts_of_other alone same ready now setAt move
        rw [nothing, Nat.zero_add, looks, if_neg fun ticks => same ticks.1]
        rfl

/-- A Master that accepts no advertisement sends one whenever its ticks find the interval
since the last one over. -/
theorem adverts_fired
    (alone : ∀ other, other ≠ name → (conf other).vrid ≠ (conf name).vrid)
    {silence : List (Occurrence Name)} (ready : Ready fromStr conf daemon)
    (attached : (daemon.sessions name).Attached (conf name) daemon.host)
    (advertising : (daemon.sessions name).Advertising deadline)
    (silent : machine.AllSteps (Silence name) daemon silence) :
    advertsSent conf name (machine.outputs daemon silence) =
      fired ((conf name).advertInterval.toNat : Instant) deadline (tickReadings name silence) := by
  induction silence generalizing daemon deadline with
  | nil => rfl
  | cons occurrence rest ih =>
      obtain ⟨next, still, look⟩ := advertising_step alone ready attached advertising silent.1
      have later := attached_step alone daemon occurrence ⟨ready, attached⟩
      have remaining := ih later.1 later.2 still silent.2
      rw [tickReadings, List.flatMap_cons, look, ← tickReadings, ← remaining]
      exact List.countP_append

end Daemon

namespace Sample

def threeTicks : List (Occurrence Unit) :=
  [.run () 1 1 (.handle .tick), .run () 2 2 (.handle .tick), .run () 3 3 (.handle .tick)]

end Sample

namespace Daemon

end Daemon

end Failover
