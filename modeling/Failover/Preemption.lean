import Failover.Compatibility
import Failover.Takeover
import Mathlib.Data.Fintype.Basic

/-!
# What promotes a Backup

With `preempt_mode`, a Backup that hears a lower priority takes over at once. The
timer keeps its deadline only, so it makes no difference whose advertisement
armed it.
-/

namespace Failover

open Library VirtualRouter

set_option autoImplicit false

/-- An advertisement of a lower router gets past the source filter. -/
def Cluster.HearsLower {Name : Type*} (built : Name → VirtualRouter) (cluster : Cluster Name)
    (move : Name × Env × Input) : Prop :=
  (cluster.locals move.1).poisoned = false ∧ ∃ sender, move.2.2 ∈ (built sender).adverts ∧
    ¬ move.2.2.FromLocal move.2.1 ∧ (built sender).priority < (built move.1).priority

instance {Name : Type*} [Fintype Name] (built : Name → VirtualRouter) (cluster : Cluster Name)
    (move : Name × Env × Input) : Decidable (cluster.HearsLower built move) :=
  inferInstanceAs (Decidable (_ ∧ _))

def Cluster.DeadlinePasses {Name : Type*} (built : Name → VirtualRouter) (cluster : Cluster Name)
    (move : Name × Env × Input) : Prop :=
  (cluster.locals move.1).poisoned = false ∧ move.2.2 = .tick ∧
    (cluster.locals move.1).vrouter.expired move.2.1 .masterDown ∧ ∃ interface mac,
      move.2.1.getInterface (built move.1).macVlanInterfaceV4 = .ok interface ∧
        interface.mac = some mac

structure PreemptingGroup {Name : Type*} (built : Name → VirtualRouter) : Prop where
  ready : ∀ name, (built name).Prepared
  advertisable : ∀ name, (built name).Advertisable
  group : ∀ left right, SameGroup (built left) (built right)
  preempt : ∀ name, (built name).preemptMode = true
  positive : ∀ name, (built name).priority ≠ 0

namespace VirtualRouter

theorem backup_stays_or_promoted {inst : Instance} (backup : inst.vrouter.fsm.state = .backup)
    {env : Env} {input : Input} (kind : input = .tick ∨ input.IsVrrp) :
    (inst.step env input).1.vrouter.fsm.state = .backup ∨
      (inst.step env input).1.vrouter.fsm.state = .master := by
  rcases step_simulates inst env input with ⟨signal, means, stepped⟩
  rw [stepped, backup]
  cases means with
  | stop fires =>
      cases fires
      rcases kind with tick | vrrp
      · contradiction
      · exact vrrp.elim
  | start => exact .inl rfl
  | expire => exact .inr rfl
  | hear hears =>
      simp only [Candidate.next]
      split
      · exact .inr rfl
      · exact .inl rfl
  | quiet => exact .inl rfl

theorem tick_promotes_iff {inst : Instance} (sound : inst.poisoned = false)
    (backup : inst.vrouter.fsm.state = .backup) (env : Env) :
    (inst.step env .tick).1.vrouter.fsm.state = .master ↔
      inst.vrouter.expired env .masterDown ∧ ∃ interface mac,
        env.getInterface inst.vrouter.macVlanInterfaceV4 = .ok interface ∧
          interface.mac = some mac := by
  constructor
  · intro after
    have transition := Instance.step_transition sound env .tick
    rcases transition_into_master transition (by simp [backup]) after with
      ⟨event, interface, mac, fires, _, link, found, _⟩ | ⟨packet, iface, hears, _⟩
    · cases fires with
      | tick deadline => exact ⟨deadline, interface, mac, link, found⟩
    · contradiction
  · rintro ⟨deadline, interface, mac, link, found⟩
    have handled := fires_handles (.tick deadline)
    simp [Instance.step, sound, handled, notifyMut, link, backup, becomeMaster, found,
      Handled.done]

end VirtualRouter

namespace Cluster

variable {Name : Type*} {built : Name → VirtualRouter}

theorem delivery_promotes_iff (members : PreemptingGroup built) {inst : Instance} {name : Name}
    (runs : Instance.RunOf (built name) inst) (sound : inst.poisoned = false)
    (backup : inst.vrouter.fsm.state = .backup) {sender : Name} {message : Input}
    (sent : message ∈ (built sender).adverts) (env : Env) :
    (inst.step env message).1.vrouter.fsm.state = .master ↔
      ¬ message.FromLocal env ∧ (built sender).priority < (built name).priority := by
  have transition := Instance.step_transition sound env message
  by_cases fromLocal : message.FromLocal env
  · have idle := unheard_idle transition (advert_vrrp sent)
      (from_local_unheard fromLocal inst.vrouter)
    rw [idle.1, backup]
    exact iff_of_false (by decide) (fun both => both.1 fromLocal)
  · rcases advert_heard (members.group sender name) (members.advertisable sender)
      (members.ready sender) (members.ready name) runs sent fromLocal with
      ⟨packet, hears, priority⟩
    have preempt : inst.vrouter.preemptMode = true := by
      rcases runs.config with ⟨fsm, config⟩
      rw [config]
      exact members.preempt name
    rw [state_after_hearing transition hears, backup, Candidate.backup_promoted_iff, priority]
    simp only [reduceCtorEq, false_or, Signal.hear.injEq, exists_eq_left', candidate, preempt,
      runs.priority, true_and, ← UInt8.lt_iff_toNat_lt, fromLocal, not_false_eq_true]
    exact and_iff_right (positive_toNat.mpr (members.positive sender))

variable [DecidableEq Name]

/-- What one move makes of a Backup. -/
theorem promoted_iff (members : PreemptingGroup built) {cluster : Cluster Name}
    (sound : Sound built cluster) {allowed : Name → Env × Input → Prop}
    {move : Name × Env × Input}
    (enabled : Soup.Enabled Instance.party allowed cluster move)
    (backup : (cluster.locals move.1).vrouter.fsm.state = .backup)
    (kind : move.2.2 = .tick ∨ move.2.2.IsVrrp) :
    ((((Soup.machine Instance.party).step cluster move).1.locals move.1).vrouter.fsm.state =
      .master ↔ HearsLower built cluster move ∨ DeadlinePasses built cluster move) := by
  rcases move with ⟨name, env, input⟩
  have runs := sound.parties name
  rw [Soup.step_locals_self]
  cases poisoned : (cluster.locals name).poisoned with
  | true =>
      simp only [Instance.party, Instance.step_poisoned poisoned, backup]
      apply iff_of_false (by decide)
      rintro (lower | passes)
      · exact Bool.noConfusion (poisoned.symm.trans lower.1)
      · exact Bool.noConfusion (poisoned.symm.trans passes.1)
  | false =>
      rcases kind with tick | vrrp
      · obtain rfl : input = .tick := tick
        have link : (cluster.locals name).vrouter.macVlanInterfaceV4 =
            (built name).macVlanInterfaceV4 := by
          rcases runs.config with ⟨fsm, config⟩
          rw [config]
          rfl
        apply (tick_promotes_iff poisoned backup env).trans
        rw [link]
        constructor
        · exact fun expires => .inr ⟨poisoned, rfl, expires⟩
        · rintro (⟨_, sender, sent, _⟩ | ⟨_, _, expires⟩)
          · exact (advert_vrrp sent).elim
          · exact expires
      · have delivered := enabled.2 input (Input.message_of_vrrp vrrp)
        rcases sound.messages input delivered with ⟨sender, sent⟩
        constructor
        · intro promoted
          have lower := (delivery_promotes_iff members runs poisoned backup sent env).mp promoted
          exact .inl ⟨poisoned, sender, sent, lower⟩
        · rintro (⟨_, other, otherSent, lower⟩ | ⟨_, tick, _⟩)
          · exact (delivery_promotes_iff members runs poisoned backup otherSent env).mpr lower
          · obtain rfl : input = .tick := tick
            exact vrrp.elim

end Cluster

theorem preempting_group_of_configs {fromStr : String → Option IpNet} {configs : List Config}
    (accepted : validateConfigs fromStr configs = .ok ()) {base : Config} (member : base ∈ configs)
    {Name : Type*} {conf : Name → Config} (same : ∀ name, base.SameVirtualRouter (conf name))
    (preempt : ∀ name, (conf name).preemptMode = true)
    (positive : ∀ name, (conf name).priority ≠ 0) (parent : Name → NetworkInterface)
    (primaryIp : Name → Ipv4Addr) :
    PreemptingGroup fun name =>
      (configToVr fromStr (conf name)).prepare (parent name) (primaryIp name) := by
  have fromBase (name : Name) := config_to_vr_same_group fromStr (same name) (parent name)
    (parent name) (primaryIp name) (primaryIp name)
  constructor
  · exact fun name => prepared_of_same accepted member (same name) _ _
  · exact fun name => (fromBase name).advertisable (config_to_vr_advertisable accepted member _ _)
  · intro left right
    have toLeft := fromBase left
    have toRight := fromBase right
    exact ⟨toLeft.version.symm.trans toRight.version, toLeft.vrid.symm.trans toRight.vrid,
      toLeft.advertInterval.symm.trans toRight.advertInterval,
      toLeft.ipv4Addresses.symm.trans toRight.ipv4Addresses,
      toLeft.ipv6Addresses.symm.trans toRight.ipv6Addresses⟩
  · exact preempt
  · exact positive

namespace Cluster

variable {Name : Type*} [DecidableEq Name]

/-- The cluster next to the priority of the advertisement that armed the timer of
each router. Only `Startup` arms it without one. -/
def watched : Machine (Cluster Name × (Name → Option UInt8)) (Name × Env × Input) Input :=
  (Soup.machine Instance.party).withRecord fun cluster move armedBy =>
    let inst := cluster.locals move.1
    let next := (inst.step move.2.1 move.2.2).1
    match if inst.poisoned then none else inst.vrouter.heard move.2.1 move.2.2 with
    | some packet => Function.update armedBy move.1 (some packet.priority)
    | none =>
        if next.vrouter.fsm.timer = inst.vrouter.fsm.timer then armedBy
        else Function.update armedBy move.1 none

/-- The router is Backup, an advertisement of a router at least as good armed its
deadline, and the deadline has not passed. -/
def FollowsSuperior (built : Name → VirtualRouter)
    (watch : Cluster Name × (Name → Option UInt8)) (move : Name × Env × Input) : Prop :=
  (watch.1.locals move.1).vrouter.fsm.state = .backup ∧
    (∃ priority, watch.2 move.1 = some priority ∧ (built move.1).priority ≤ priority) ∧
    ¬ (watch.1.locals move.1).vrouter.expired move.2.1 .masterDown

instance (built : Name → VirtualRouter) (watch : Cluster Name × (Name → Option UInt8))
    (move : Name × Env × Input) : Decidable (FollowsSuperior built watch move) :=
  inferInstanceAs (Decidable (_ ∧ _ ∧ _))

end Cluster

/-- Throughout a run, the Backups that follow a router at least as good stay Backup
before their deadline exactly if none of them hears a lower router. -/
theorem followers_stay_backup_iff {fromStr : String → Option IpNet}
    {configs : List Config} (accepted : validateConfigs fromStr configs = .ok ()) {base : Config}
    (member : base ∈ configs) {Name : Type*} [DecidableEq Name] {conf : Name → Config}
    (same : ∀ name, base.SameVirtualRouter (conf name))
    (preempt : ∀ name, (conf name).preemptMode = true)
    (positive : ∀ name, (conf name).priority ≠ 0) {parent : Name → NetworkInterface}
    {primaryIp : Name → Ipv4Addr} {built : Name → VirtualRouter}
    (builds : built = fun name =>
      (configToVr fromStr (conf name)).prepare (parent name) (primaryIp name))
    {allowed : Name → Env × Input → Prop} {moves : List (Name × Env × Input)}
    (enabled : (Soup.machine Instance.party).AllSteps (Soup.Enabled Instance.party allowed)
      (Cluster.start built) moves) :
    Cluster.watched.AllSteps
        (fun watch move => Cluster.FollowsSuperior built watch move →
          (move.2.2 = .tick ∨ move.2.2.IsVrrp) →
          ((Cluster.watched.step watch move).1.1.locals move.1).vrouter.fsm.state = .backup)
        (Cluster.start built, fun _ => none) moves ↔
      Cluster.watched.AllSteps
        (fun watch move => Cluster.FollowsSuperior built watch move →
          ¬ Cluster.HearsLower built watch.1 move)
        (Cluster.start built, fun _ => none) moves := by
  have members : PreemptingGroup built := by
    rw [builds]
    exact preempting_group_of_configs accepted member same preempt positive parent primaryIp
  have guarded : Cluster.watched.AllSteps
      (fun watch move => Soup.Enabled Instance.party allowed watch.1 move)
      (Cluster.start built, fun _ => none) moves :=
    Machine.with_record_all_steps _ _ _ enabled
  apply Cluster.watched.all_steps_iff_of_guarded (fun watch => Cluster.Sound built watch.1) _ _
    (Cluster.start_sound built) guarded
  · exact fun watch move sound guard => Cluster.sound_step allowed watch.1 move sound guard
  · intro watch move sound guard
    apply imp_congr_right
    intro follows
    have promoted := Cluster.promoted_iff members sound guard follows.1
    constructor
    · intro stays lower
      have vrrp : move.2.2.IsVrrp := by
        rcases lower with ⟨_, sender, sent, _⟩
        exact advert_vrrp sent
      have rises := (promoted (.inr vrrp)).mpr (.inl lower)
      exact State.noConfusion ((stays (.inr vrrp)).symm.trans rises)
    · intro unheard kind
      change (((Soup.machine Instance.party).step watch.1 move).1.locals
        move.1).vrouter.fsm.state = .backup
      by_cases rises : (((Soup.machine Instance.party).step watch.1 move).1.locals
          move.1).vrouter.fsm.state = .master
      · rcases (promoted kind).mp rises with lower | passes
        · exact absurd lower unheard
        · exact absurd passes.2.2.1 follows.2.2
      · rw [Soup.step_locals_self] at rises ⊢
        exact (backup_stays_or_promoted follows.1 kind).resolve_right rises

namespace Sample

def trioPriority : Fin 3 → UInt8
  | 0 => 200
  | 1 => 150
  | 2 => 100

def trio (name : Fin 3) : VirtualRouter :=
  router .v2 (trioPriority name) (10 * (name.val + 1))

/-- The best and the worst router become Master without hearing each other, and the
one between them follows the best. -/
def trioMoves : List (Fin 3 × Env × Input) :=
  [(0, env 10 0 [] [], .notify .startup), (0, env 10 10 [] [], .tick),
    (2, env 30 0 [] [], .notify .startup), (2, env 30 10 [] [], .tick),
    (1, env 20 9 [] [], .notify .startup),
    (1, env 20 10 [] [], .vrrpV4 (trio 0).ipv4Advert)]

/-- Then it gets what the worst one sent. -/
def trioMove : Fin 3 × Env × Input :=
  (1, env 20 11 [] [], .vrrpV4 (trio 2).ipv4Advert)

def trioWatch : Cluster (Fin 3) × (Fin 3 → Option UInt8) :=
  Cluster.watched.after (Cluster.start trio, fun _ => none) trioMoves

/-- Or it hears the best one again and looks at its deadline. -/
def trioFollows : List (Fin 3 × Env × Input) :=
  [(1, env 20 11 [] [], .vrrpV4 (trio 0).ipv4Advert), (1, env 20 13 [] [], .tick)]

end Sample

theorem following_trio_stays :
    Cluster.watched.AllSteps (Cluster.FollowsSuperior Sample.trio) Sample.trioWatch
        Sample.trioFollows ∧
      Cluster.watched.AllSteps
        (fun watch move => Cluster.FollowsSuperior Sample.trio watch move →
          (move.2.2 = .tick ∨ move.2.2.IsVrrp) →
          ((Cluster.watched.step watch move).1.1.locals move.1).vrouter.fsm.state = .backup)
        (Cluster.start Sample.trio, fun _ => none) (Sample.trioMoves ++ Sample.trioFollows) :=
  ⟨by decide +kernel, (@followers_stay_backup_iff Sample.parseNet [Sample.config .v2 200] rfl (Sample.config .v2 200)
    List.mem_cons_self (Fin 3) _ (fun name => Sample.config .v2 (Sample.trioPriority name))
    (fun _ => rfl) (fun _ => rfl) (by decide)
    (fun name => Sample.parent (10 * (name.val + 1)))
    (fun name => Sample.ipv4 (10 * (name.val + 1))) Sample.trio rfl (fun _ _ => True)
    (Sample.trioMoves ++ Sample.trioFollows) (by decide +kernel)).mpr (by decide +kernel)⟩

/-- The middle router follows a live Master, hears the worst one and is Master too. -/
theorem stale_advert_promotes_follower :
    (Soup.machine Instance.party).AllSteps (Soup.Enabled Instance.party fun _ _ => True)
        (Cluster.start Sample.trio) (Sample.trioMoves ++ [Sample.trioMove]) ∧
      Cluster.FollowsSuperior Sample.trio Sample.trioWatch Sample.trioMove ∧
      (Sample.trioWatch.1.locals 0).vrouter.fsm.state = .master ∧
      ((Cluster.watched.step Sample.trioWatch Sample.trioMove).1.1.locals 1).vrouter.fsm.state =
        .master :=
  ⟨by decide +kernel, ⟨by decide +kernel, ⟨200, by decide +kernel, by decide +kernel⟩,
    by decide +kernel⟩, by decide +kernel, by decide +kernel⟩

end Failover
