import Failover.Heartbeat

/-!
# Which Backup takes over

The skew orders the deadlines of the Backups of one virtual router by priority, but
each looks at its own deadline once a second. The one of the greatest priority is
sure to come first only if the others are late by more than the second it may lose.
-/

namespace Failover

open Library VirtualRouter

set_option autoImplicit false

def Config.backup (fromStr : String → Option IpNet) (conf : Config) (parent : NetworkInterface)
    (primaryIp : Ipv4Addr) : VirtualRouter :=
  (configToVr fromStr conf).prepare parent primaryIp

/-- The time that a packet gives a Backup which it does not make Master. -/
def VirtualRouter.patience (vrouter : VirtualRouter) (packet : VrrpPacket) : ℚ :=
  if packet.priority = 0 then vrouter.skewTime else vrouter.masterDownInterval

/-- Backups of one virtual router whose timers one advertisement arms at one instant. -/
structure Backups (fromStr : String → Option IpNet) (Name : Type) where
  valid : ValidConfigs fromStr
  conf : Config
  member : conf ∈ valid.configs
  peer : Name → Config
  same : ∀ name, conf.SameVirtualRouter (peer name)
  distinct : Function.Injective fun name => (peer name).priority
  top : Name
  greatest : ∀ name, (peer name).priority ≤ (peer top).priority
  parent : Name → NetworkInterface
  primaryIp : Name → Ipv4Addr
  inst : Name → Instance
  reachable : ∀ name, Instance.machine.Reachable
    (.new ((peer name).backup fromStr (parent name) (primaryIp name))) (inst name)
  state : ∀ name, (inst name).vrouter.fsm.state = .backup
  sound : ∀ name, (inst name).poisoned = false
  advert : Input
  packet : VrrpPacket
  armedAt : Instant
  env : Name → Env
  reads : ∀ name, (env name).setAt = armedAt
  hears : ∀ name, (inst name).vrouter.heard (env name) advert = some packet
  obeys : ∀ name, packet.priority = 0 ∨ (peer name).preemptMode = false ∨
    (peer name).priority ≤ packet.priority

theorem Instance.step_obeys {inst : Instance} (sound : inst.poisoned = false)
    (state : inst.vrouter.fsm.state = .backup) {env : Env} {input : Input} {packet : VrrpPacket}
    (hears : inst.vrouter.heard env input = some packet)
    (obeys : packet.priority = 0 ∨ inst.vrouter.preemptMode = false ∨
      inst.vrouter.priority ≤ packet.priority) :
    (inst.step env input).1.poisoned = false ∧
      (inst.step env input).1.vrouter.fsm.timer =
        { tType := .masterDown
          remainingTime := inst.vrouter.patience packet
          waitingFor := some (env.setAt + inst.vrouter.patience packet) } := by
  have heard := transition_hearing (step_transition sound env input) hears
  refine ⟨heard.2, ?_⟩
  have hearing := heard.1
  generalize (inst.step env input).1.vrouter = next at hearing ⊢
  generalize (inst.step env input).2 = effects at hearing
  cases hearing with
  | stopped init => simp [state] at init
  | outranked master => simp [state] at master
  | hearsLeaving _ leaving => simp [patience, leaving]
  | defers _ positive => simp [patience, positive]
  | preempts _ _ positive preempt lower =>
      rcases obeys with leaving | noPreempt | superior
      · exact absurd leaving positive
      · simp [preempt] at noPreempt
      · exact absurd lower (UInt8.not_lt.mpr superior)
  | answers master => simp [state] at master
  | yields _ _ master => simp [state] at master

variable {fromStr : String → Option IpNet} {Name : Type}

namespace Backups

def built (backups : Backups fromStr Name) (name : Name) : VirtualRouter :=
  (backups.peer name).backup fromStr (backups.parent name) (backups.primaryIp name)

def armed (backups : Backups fromStr Name) (name : Name) : Instance :=
  ((backups.inst name).step (backups.env name) backups.advert).1

/-- The ticks of each Backup, from any phase within the second after the advertisement. -/
structure Ticking (backups : Backups fromStr Name) where
  phase : Name → ℚ
  env : Name → ℕ → Env
  after : ∀ name, backups.armedAt ≤ phase name
  soon : ∀ name, phase name < backups.armedAt + 1
  atTick : ∀ name tick, (env name tick).now = phase name + tick

/-- With no further advertisement, the Backup of the greatest priority fires, and
every other that fires does so at the same time or later. -/
def TopFirst (backups : Backups fromStr Name) : Prop :=
  ∀ ticking : backups.Ticking, ∃ topTick,
    (backups.armed backups.top).FiresAt (ticking.env backups.top) topTick ∧
      ∀ name tick, (backups.armed name).FiresAt (ticking.env name) tick →
        ticking.phase backups.top + topTick ≤ ticking.phase name + tick

def skewUnit (backups : Backups fromStr Name) : ℕ :=
  match backups.conf.version with
  | .v2 => 1
  | .v3 => backups.conf.advertInterval.toNat

def deadline (backups : Backups fromStr Name) (name : Name) : ℚ :=
  backups.armedAt + (backups.built name).patience backups.packet

theorem fires_at (backups : Backups fromStr Name) (ticking : backups.Ticking) (name : Name)
    (tick : ℕ) :
    (backups.armed name).FiresAt (ticking.env name) tick ↔
      FirstAfter (ticking.phase name) (backups.deadline name) tick := by
  have runs := Instance.run_of_reachable (backups.reachable name)
  rcases runs.config with ⟨fsm, config⟩
  have obeys := backups.obeys name
  have stepped := Instance.step_obeys (backups.sound name) (backups.state name)
    (backups.hears name) (by rw [config]; exact obeys)
  have patience : (backups.inst name).vrouter.patience backups.packet =
      (backups.built name).patience backups.packet := by
    rw [config]
    rfl
  rw [patience, backups.reads] at stepped
  apply Instance.fires_at_iff stepped.1 _ _ (ticking.atTick name)
  · rw [stepped.2]
  · rw [stepped.2]
    rfl

theorem deadline_gap (backups : Backups fromStr Name) (name : Name) :
    backups.deadline name - backups.deadline backups.top =
      (((backups.peer backups.top).priority.toNat - (backups.peer name).priority.toNat : ℕ) : ℚ) *
        backups.skewUnit / 256 := by
  have ranked := UInt8.le_iff_toNat_le.mp (backups.greatest name)
  rw [Nat.cast_sub ranked]
  have version (name : Name) : (backups.peer name).version = backups.conf.version := by
    rw [backups.same name]
  have interval (name : Name) :
      (backups.peer name).advertInterval = backups.conf.advertInterval := by
    rw [backups.same name]
  have skew (name : Name) : (backups.built name).skewTime = skewTimeOf backups.conf.version
      (backups.peer name).priority backups.conf.advertInterval := by
    rw [← version name, ← interval name]
    rfl
  have down (name : Name) : (backups.built name).masterDownInterval =
      3 * backups.conf.advertInterval.toNat + (backups.built name).skewTime := by
    rw [← interval name]
    rfl
  have patience : backups.deadline name - backups.deadline backups.top =
      (backups.built name).skewTime - (backups.built backups.top).skewTime := by
    unfold deadline VirtualRouter.patience
    split_ifs
    · ring
    · rw [down, down]
      ring
  rw [patience, skew, skew]
  unfold skewTimeOf skewUnit
  cases backups.conf.version with
  | v2 =>
      push_cast
      ring
  | v3 => ring

theorem armed_before_deadline (backups : Backups fromStr Name) (name : Name) :
    backups.armedAt ≤ backups.deadline name := by
  have skew : 0 ≤ (backups.built name).skewTime := skew_time_nonneg _ _ _
  have down : 0 ≤ (backups.built name).masterDownInterval := by
    have interval : (0 : ℚ) ≤ 3 * (backups.peer name).advertInterval.toNat := by positivity
    exact add_nonneg interval skew
  have patience : 0 ≤ (backups.built name).patience backups.packet := by
    unfold VirtualRouter.patience
    split_ifs
    · exact skew
    · exact down
  unfold deadline
  linarith

open Classical in
/-- One phase for the top Backup and one for the others. -/
noncomputable def tickingAt (backups : Backups fromStr Name) {top others : ℚ}
    (topAfter : backups.armedAt ≤ top) (topSoon : top < backups.armedAt + 1)
    (othersAfter : backups.armedAt ≤ others) (othersSoon : others < backups.armedAt + 1) :
    backups.Ticking where
  phase name := if name = backups.top then top else others
  env name tick :=
    { interfaces := []
      now := (if name = backups.top then top else others) + tick
      setAt := (if name = backups.top then top else others) + tick }
  after name := by split_ifs <;> assumption
  soon name := by split_ifs <;> assumption
  atTick name tick := rfl

/-- The top Backup comes first at all phases when every deadline is a second behind its
own. -/
theorem top_first_iff_apart (backups : Backups fromStr Name) :
    backups.TopFirst ↔ ∀ name, name ≠ backups.top →
      backups.deadline backups.top + 1 ≤ backups.deadline name := by
  have started := backups.armed_before_deadline
  constructor
  · intro topFirst name other
    apply (noticed_in_order_iff (started backups.top) (started name)).mp
    intro topPhase phase topAfter topSoon after soon topTick tick topNotices notices
    rcases topFirst (backups.tickingAt topAfter topSoon after soon) with ⟨fired, fires, order⟩
    have firedNotices := (backups.fires_at _ _ _).mp fires
    simp only [tickingAt, if_true] at firedNotices
    have later := order name tick ((backups.fires_at _ _ _).mpr (by simpa [tickingAt, other]))
    simpa [tickingAt, other, firedNotices.unique topNotices] using later
  · intro apart ticking
    rcases exists_first_after (ticking.phase backups.top) (backups.deadline backups.top) with
      ⟨topTick, topNotices⟩
    refine ⟨topTick, (backups.fires_at _ _ _).mpr topNotices, fun name tick fires => ?_⟩
    have notices := (backups.fires_at _ _ _).mp fires
    by_cases own : name = backups.top
    · subst own
      rw [topNotices.unique notices]
    · exact (noticed_in_order_iff (started backups.top) (started name)).mpr (apart name own) _ _
        (ticking.after _) (ticking.soon _) (ticking.after _) (ticking.soon _) _ _ topNotices notices

/-- The Backup of the greatest priority fires first at all phases of the ticks exactly
when each other priority is so far below that the skew makes it a second late. -/
theorem top_first_iff (backups : Backups fromStr Name) :
    backups.TopFirst ↔ ∀ name, name ≠ backups.top →
      256 ≤ ((backups.peer backups.top).priority.toNat - (backups.peer name).priority.toNat) *
        backups.skewUnit := by
  rw [top_first_iff_apart]
  apply forall₂_congr
  intro name _
  have gap := backups.deadline_gap name
  rw [← Nat.cast_mul] at gap
  constructor
  · intro apart
    have wide : (256 : ℚ) ≤ ((((backups.peer backups.top).priority.toNat -
        (backups.peer name).priority.toNat) * backups.skewUnit : ℕ) : ℚ) := by
      linarith
    exact_mod_cast wide
  · intro wide
    have apart : (256 : ℚ) ≤ ((((backups.peer backups.top).priority.toNat -
        (backups.peer name).priority.toNat) * backups.skewUnit : ℕ) : ℚ) := by
      exact_mod_cast wide
    linarith

end Backups

namespace Sample

def rival (first : Bool) : Config :=
  config .v2 (if first then 200 else 100)

/-- Two v2 Backups that both hear a Master of priority 250 at time 20. -/
def rivals : Backups parseNet Bool where
  valid := { configs := [rival true], accepted := rfl }
  conf := rival true
  member := List.mem_cons_self
  peer := rival
  same first := by cases first <;> rfl
  distinct left right same := by cases left <;> cases right <;> first | rfl | contradiction
  top := true
  greatest first := by cases first <;> decide
  parent first := parent (if first then 10 else 20)
  primaryIp first := ipv4 (if first then 10 else 20)
  inst first := Instance.machine.after (.new ((rival first).backup parseNet
      (parent (if first then 10 else 20)) (ipv4 (if first then 10 else 20))))
    [(env (if first then 10 else 20) 19 [] [], .notify .startup)]
  reachable first := Machine.reachable_after _ _ _
  state first := by cases first <;> decide +kernel
  sound first := by cases first <;> decide +kernel
  advert := .vrrpV4 (router .v2 250 30).ipv4Advert
  packet := (router .v2 250 30).advertisement (.v4 (router .v2 250 30).ipv4Addrs)
  armedAt := 20
  env first := env (if first then 10 else 20) 20 [] []
  reads first := rfl
  hears first := by cases first <;> decide +kernel
  obeys first := .inr (.inr (by cases first <;> decide +kernel))

end Sample

/-- The deadlines are 23 + 56/256 and 23 + 156/256: a Backup of priority 200 that
ticks at its own deadline is overtaken. -/
theorem Backups.lower_priority_overtakes : ¬ Sample.rivals.TopFirst := by
  intro topFirst
  have apart := Sample.rivals.top_first_iff_apart.mp topFirst false Bool.false_ne_true
  have close : Sample.rivals.deadline false < Sample.rivals.deadline Sample.rivals.top + 1 := by
    decide +kernel
  exact absurd apart (not_le.mpr close)

end Failover
