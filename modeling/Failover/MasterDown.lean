import Failover.Heartbeat
import Mathlib.Data.List.Induction

/-!
# A live Master is not declared down

Between two advertisements of a Master that ticks once a second lies up to a
second more than its interval, and up to another second between their arrivals at
a Backup. The master-down interval leaves room for both unless the advertisement
interval is zero.
-/

namespace Failover

open Library VirtualRouter

set_option autoImplicit false

/-- Two routers built from one accepted configuration but for their priorities. -/
structure RankedPair (fromStr : String → Option IpNet) where
  valid : ValidConfigs fromStr
  conf : Config
  member : conf ∈ valid.configs
  masterPriority : UInt8
  backupPriority : UInt8
  masterPositive : masterPriority ≠ 0
  backupPositive : backupPriority ≠ 0
  ranked : backupPriority ≤ masterPriority
  masterParent : NetworkInterface
  backupParent : NetworkInterface
  masterIp : Ipv4Addr
  backupIp : Ipv4Addr

/-- The ticks among the inputs come once a second from this time on, and the clock
is read at or after the tick. -/
def TicksFrom (phase : ℚ) : List (Env × Input) → Prop
  | [] => True
  | (env, .tick) :: rest => phase ≤ env.now ∧ TicksFrom (phase + 1) rest
  | _ :: rest => TicksFrom phase rest

variable {fromStr : String → Option IpNet}

namespace RankedPair

def master (pair : RankedPair fromStr) : VirtualRouter :=
  (configToVr fromStr { pair.conf with priority := pair.masterPriority }).prepare
    pair.masterParent pair.masterIp

def backup (pair : RankedPair fromStr) : VirtualRouter :=
  (configToVr fromStr { pair.conf with priority := pair.backupPriority }).prepare
    pair.backupParent pair.backupIp

/-- The Backup accepts this input of its run as the message of the given tick, less
than a second after that tick. -/
structure Delivers (pair : RankedPair fromStr) (master : Instance) (phase : ℚ) (env : ℕ → Env)
    (tick : ℕ) (message : Input) (moment : Env × Input) : Prop where
  sent : master.Sends env tick message
  same : moment.2 = message
  after : (env tick).now ≤ moment.1.setAt
  within : moment.1.setAt < phase + tick + 1
  accepted : (pair.backup.heard moment.1 moment.2).isSome = true

/-- A Master left to its ticks, each handled within a second, and what happens at a
Backup meanwhile: its own ticks, in between the advertisements of the Master, all of
which arrive, and any input that is dropped. -/
structure Watch (pair : RankedPair fromStr) where
  master : Instance
  masterReachable : Instance.machine.Reachable (.new pair.master) master
  masterState : master.vrouter.fsm.state = .master
  phase : ℚ
  env : ℕ → Env
  atTick : ∀ tick : ℕ, phase + tick ≤ (env tick).now
  inOrder : ∀ tick, (env tick).now ≤ (env tick).setAt
  prompt : ∀ tick : ℕ, (env tick).setAt < phase + tick + 1
  backup : Instance
  backupReachable : Instance.machine.Reachable (.new pair.backup) backup
  backupState : backup.vrouter.fsm.state = .backup
  backupPhase : ℚ
  moments : List (Env × Input)
  backupTicks : TicksFrom backupPhase moments
  unnotified : ∀ moment ∈ moments, ∀ event, moment.2 ≠ .notify event
  clock : ∀ moment ∈ moments, moment.1.now ≤ moment.1.setAt
  ordered : moments.Pairwise fun earlier later => earlier.1.setAt ≤ later.1.now
  heard : ∀ moment ∈ moments, (pair.backup.heard moment.1 moment.2).isSome = true →
    ∃ tick message, pair.Delivers master phase env tick message moment
  delivered : ∀ before moment rest, moments = before ++ moment :: rest → ∀ (tick : ℕ) message,
    master.Sends env tick message → phase + tick + 1 ≤ moment.1.now →
      ∃ delivery ∈ before, pair.Delivers master phase env tick message delivery

theorem master_reaches_backup (pair : RankedPair fromStr) :
    SameGroup pair.master pair.backup := by
  have same : ({ pair.conf with priority := pair.masterPriority } : Config).SameVirtualRouter
      { pair.conf with priority := pair.backupPriority } := rfl
  exact config_to_vr_same_group fromStr same pair.masterParent pair.backupParent pair.masterIp
    pair.backupIp

theorem master_down_interval (pair : RankedPair fromStr) :
    pair.backup.masterDownInterval = 3 * pair.conf.advertInterval.toNat +
        skewTimeOf pair.conf.version pair.backupPriority pair.conf.advertInterval :=
  rfl

namespace Watch

variable {pair : RankedPair fromStr}

/-- The test of the Backup's timer task never succeeds for its MasterDown timer once
it has accepted an advertisement. -/
def NeverDown (watch : pair.Watch) : Prop :=
  ∀ before moment rest, watch.moments = before ++ moment :: rest → moment.2 = .tick →
    (∃ earlier ∈ before, (pair.backup.heard earlier.1 earlier.2).isSome = true) →
      ¬ (Instance.machine.after watch.backup before).Due moment.1 .masterDown

/-- The deadline of the Backup is that of the last advertisement before. -/
structure Armed (watch : pair.Watch) (before : List (Env × Input)) (inst : Instance)
    (last : Env × Input) : Prop where
  member : last ∈ before
  accepted : (pair.backup.heard last.1 last.2).isSome = true
  latest : ∀ other ∈ before, (pair.backup.heard other.1 other.2).isSome = true →
    other.1.setAt ≤ last.1.setAt
  state : inst.vrouter.fsm.state = .backup
  timer : inst.vrouter.fsm.timer =
    { tType := .masterDown
      remainingTime := pair.backup.masterDownInterval
      waitingFor := some (last.1.setAt + pair.backup.masterDownInterval) }

theorem master_advertises (watch : pair.Watch) : Instance.Advertises pair.master watch.master :=
  ⟨Instance.run_of_reachable watch.masterReachable, watch.masterState,
    Instance.reachable_matched rfl watch.masterReachable⟩

/-- The next advertisement arrives before the master-down interval is over. -/
theorem Armed.not_due {watch : pair.Watch} (positive : pair.conf.advertInterval ≠ 0)
    {before rest : List (Env × Input)} {moment : Env × Input}
    (split : watch.moments = before ++ moment :: rest) {inst : Instance} {last : Env × Input}
    (armed : watch.Armed before inst last) : ¬ inst.Due moment.1 .masterDown := by
  intro due
  have sound := due.1
  have waiting : inst.vrouter.fsm.timer.waitingFor =
      some (last.1.setAt + pair.backup.masterDownInterval) := by
    rw [armed.timer]
  have late := (Instance.due_iff sound (Instance.due_type due) waiting).mp due
  have listed : last ∈ watch.moments := by
    rw [split]
    exact List.mem_append_left _ armed.member
  rcases watch.heard last listed armed.accepted with ⟨tick, message, delivers⟩
  have advertises := watch.master_advertises
  rcases (Instance.sends_iff advertises tick message).mp delivers.sent with ⟨sends, advert⟩
  rcases Instance.sends_again advertises watch.atTick watch.prompt sends with
    ⟨later, after, soon, again⟩
  have resent := (Instance.sends_iff advertises later message).mpr ⟨again, advert⟩
  have interval : (1 : ℚ) ≤ pair.conf.advertInterval.toNat := by
    have nonzero : pair.conf.advertInterval.toNat ≠ 0 := positive_toNat.mpr positive
    exact_mod_cast Nat.one_le_iff_ne_zero.mpr nonzero
  have soonTime : (later : ℚ) ≤ tick + pair.conf.advertInterval.toNat + 1 := by
    exact_mod_cast soon
  have afterTime : (tick : ℚ) + 1 ≤ later := by exact_mod_cast after
  have skew := skew_time_nonneg pair.conf.version pair.backupPriority pair.conf.advertInterval
  have arrival : watch.phase + later + 1 ≤ moment.1.now := by
    rw [pair.master_down_interval] at late
    linarith [watch.atTick tick, delivers.after]
  rcases watch.delivered before moment rest split later message resent arrival with
    ⟨delivery, earlier, newer⟩
  have order := armed.latest delivery earlier newer.accepted
  linarith [watch.atTick later, newer.after, delivers.within]

theorem Armed.step {watch : pair.Watch} (positive : pair.conf.advertInterval ≠ 0)
    {before rest : List (Env × Input)} {moment last : Env × Input}
    (split : watch.moments = before ++ moment :: rest) {inst : Instance}
    (runs : Instance.RunOf pair.backup inst) (armed : watch.Armed before inst last)
    (unheard : pair.backup.heard moment.1 moment.2 = none) :
    watch.Armed (before ++ [moment]) (inst.step moment.1 moment.2).1 last := by
  have unchanged : (inst.step moment.1 moment.2).1 = inst := by
    by_cases tick : moment.2 = .tick
    · rw [tick, Instance.step_tick_waits (armed.not_due positive split)]
      intro due
      have type := Instance.due_type due
      simp [armed.timer] at type
    · apply Instance.step_unheard moment.1 _ tick
      · rw [runs.heard]
        exact unheard
      · exact watch.unnotified moment (by simp [split])
  rw [unchanged]
  refine ⟨List.mem_append_left _ armed.member, armed.accepted, ?_, armed.state, armed.timer⟩
  intro other member heard
  rcases List.mem_append.mp member with earlier | same
  · exact armed.latest other earlier heard
  · rw [List.mem_singleton.mp same, unheard] at heard
    contradiction

theorem split_last {before rest : List (Env × Input)} {moment : Env × Input}
    (watch : pair.Watch) (split : watch.moments = before ++ moment :: rest) :
    moment ∈ watch.moments ∧ ∀ earlier ∈ before, earlier.1.setAt ≤ moment.1.setAt := by
  have member : moment ∈ watch.moments := by simp [split]
  refine ⟨member, fun earlier listed => ?_⟩
  have ordered := watch.ordered
  rw [split, List.pairwise_append] at ordered
  exact (ordered.2.2 earlier listed moment List.mem_cons_self).trans (watch.clock moment member)

theorem step_follows (watch : pair.Watch) {before rest : List (Env × Input)}
    {moment : Env × Input} (split : watch.moments = before ++ moment :: rest) {inst : Instance}
    (runs : Instance.RunOf pair.backup inst) (sound : inst.poisoned = false)
    (state : inst.vrouter.fsm.state ≠ .init) {packet : VrrpPacket}
    (hears : pair.backup.heard moment.1 moment.2 = some packet) :
    watch.Armed (before ++ [moment]) (inst.step moment.1 moment.2).1 moment := by
  have accepted : (pair.backup.heard moment.1 moment.2).isSome = true := by
    rw [hears]
    rfl
  rcases watch.split_last split with ⟨member, earlierRead⟩
  rcases watch.heard moment member accepted with ⟨tick, message, delivers⟩
  have advert := ((Instance.sends_iff watch.master_advertises tick message).mp delivers.sent).2
  rw [← delivers.same] at advert
  have priority : packet.priority = pair.masterPriority := heard_priority advert hears
  have positive : packet.priority ≠ 0 := by
    rw [priority]
    exact pair.masterPositive
  have superior : pair.backup.priority ≤ packet.priority := by
    rw [priority]
    exact pair.ranked
  have follows := Instance.step_follows runs sound state hears positive superior
  refine ⟨by simp, accepted, ?_, follows.2.1, follows.2.2⟩
  intro other listed _
  rcases List.mem_append.mp listed with earlier | same
  · exact earlierRead other earlier
  · rw [List.mem_singleton.mp same]

theorem armed_after (watch : pair.Watch) (positive : pair.conf.advertInterval ≠ 0)
    (before rest : List (Env × Input)) (split : watch.moments = before ++ rest) :
    (Instance.machine.after watch.backup before).poisoned = true ∨
      (Instance.machine.after watch.backup before).vrouter.fsm.state ≠ .init ∧
        ((∃ earlier ∈ before, (pair.backup.heard earlier.1 earlier.2).isSome = true) →
          ∃ last, watch.Armed before (Instance.machine.after watch.backup before) last) := by
  induction before using List.reverseRecOn generalizing rest with
  | nil =>
      right
      exact ⟨by simp [watch.backupState], by simp⟩
  | append_singleton before moment ih =>
      have splitHere : watch.moments = before ++ moment :: rest := by simpa using split
      rw [Machine.after_append, Machine.after_cons, Machine.after_nil]
      have reachable : Instance.machine.Reachable (.new pair.backup)
          (Instance.machine.after watch.backup before) := by
        rcases watch.backupReachable with ⟨history, reached⟩
        exact ⟨history ++ before, by rw [Machine.after_append, reached]⟩
      have runs := Instance.run_of_reachable reachable
      have unnotified := watch.unnotified moment (watch.split_last splitHere).1
      have known := ih (moment :: rest) splitHere
      generalize Instance.machine.after watch.backup before = inst at runs known ⊢
      simp only [Instance.machine]
      cases poisoned : inst.poisoned with
      | true =>
          rw [Instance.step_poisoned poisoned]
          exact .inl poisoned
      | false =>
          rcases known with locked | ⟨state, armed⟩
          · simp [poisoned] at locked
          · right
            refine ⟨Instance.step_not_init moment.1 unnotified state, fun some => ?_⟩
            cases hears : pair.backup.heard moment.1 moment.2 with
            | none =>
                have before : ∃ earlier ∈ before,
                    (pair.backup.heard earlier.1 earlier.2).isSome = true := by
                  simpa [hears, or_and_right, exists_or] using some
                rcases armed before with ⟨last, armed⟩
                exact ⟨last, armed.step positive splitHere runs hears⟩
            | some packet =>
                exact ⟨moment, watch.step_follows splitHere runs poisoned state hears⟩

theorem never_down (watch : pair.Watch) (positive : pair.conf.advertInterval ≠ 0) :
    watch.NeverDown := by
  intro before moment rest split _ accepted due
  rcases watch.armed_after positive before (moment :: rest) split with locked | ⟨_, armed⟩
  · simp [due.1] at locked
  · rcases armed accepted with ⟨last, armed⟩
    exact armed.not_due positive split due

end Watch

/-! A zero interval lets a Backup give up before the next tick of its Master. -/

def lone (name : String) (time : Instant) : Env where
  interfaces := [{ name, mac := some 0, ips := [] }]
  now := time
  setAt := time

def bare (time : Instant) : Env where
  interfaces := []
  now := time
  setAt := time

theorem lone_found (name : String) (time : Instant) :
    (lone name time).getInterface name = .ok { name, mac := some 0, ips := [] } := by
  simp [Env.getInterface, lone]

theorem started {built : VirtualRouter} (fresh : built.fsm = .default) (time : Instant) :
    let inst := ((Instance.new built).step (lone built.macVlanInterfaceV4 time)
      (.notify .startup)).1
    inst.poisoned = false ∧ ∃ fsm, inst.vrouter = built.withFsm fsm ∧
      ((fsm.state = .master ∧ fsm.timer.tType = .adver ∧
          fsm.timer.waitingFor = some (time + built.advertInterval.toNat)) ∨
        (fsm.state = .backup ∧ fsm.timer.tType = .masterDown ∧
          fsm.timer.waitingFor = some (time + built.masterDownInterval))) := by
  have state : (Instance.new built).vrouter.fsm.state = .init := by
    have default : (Instance.new built).vrouter.fsm = .default := fresh
    rw [default]
    rfl
  have sound : (Instance.new built).poisoned = false := rfl
  have link : (lone built.macVlanInterfaceV4 time).getInterface
      (Instance.new built).vrouter.macVlanInterfaceV4 = .ok _ := lone_found _ time
  by_cases owner : built.priority = 255
  · have begun := Instance.step_takes_over sound (.notify .startup) (.inl ⟨rfl, state, owner⟩) link
      rfl
    simp only [begun]
    exact ⟨trivial, _, rfl, .inl ⟨rfl, rfl, rfl⟩⟩
  · have begun := Instance.step_starts sound state owner link
    simp only [begun]
    exact ⟨trivial, _, rfl, .inr ⟨rfl, rfl, rfl⟩⟩

theorem exists_master {built : VirtualRouter} (fresh : built.fsm = .default)
    (zero : built.advertInterval = 0) (short : built.masterDownInterval ≤ 1) :
    ∃ inst, Instance.machine.Reachable (.new built) inst ∧ inst.vrouter.fsm.state = .master ∧
      inst.poisoned = false ∧ inst.vrouter.fsm.timer.tType = .adver ∧
        inst.vrouter.fsm.timer.waitingFor = some (-2) := by
  let moments : List (Env × Input) :=
    [(lone built.macVlanInterfaceV4 (-4), .notify .startup),
      (lone built.macVlanInterfaceV4 (-2), .tick)]
  refine ⟨_, Machine.reachable_after _ _ moments, ?_⟩
  simp only [moments, Machine.after_cons, Machine.after_nil, Instance.machine]
  rcases started fresh (-4) with ⟨sound, fsm, vrouter, timer⟩
  generalize ((Instance.new built).step (lone built.macVlanInterfaceV4 (-4))
    (.notify .startup)).1 = inst at sound vrouter ⊢
  have same : inst.vrouter.macVlanInterfaceV4 = built.macVlanInterfaceV4 := by rw [vrouter]; rfl
  rcases timer with ⟨state, type, waiting⟩ | ⟨state, type, waiting⟩
  · have due : inst.Due (lone built.macVlanInterfaceV4 (-2)) .adver := by
      apply (Instance.due_iff sound (by rw [vrouter]; exact type)
        (by rw [vrouter]; exact waiting)).mpr
      simp [lone, zero]
      norm_num
    rw [Instance.step_tick_advertises due, vrouter]
    simp [VirtualRouter.withFsm, state, lone, zero]
  · have due : inst.Due (lone built.macVlanInterfaceV4 (-2)) .masterDown := by
      apply (Instance.due_iff sound (by rw [vrouter]; exact type)
        (by rw [vrouter]; exact waiting)).mpr
      simp only [lone]
      linarith
    have fires : Fires (lone built.macVlanInterfaceV4 (-2)) inst.vrouter .tick .masterDown :=
      .tick due.2
    rw [Instance.step_takes_over sound fires (.inr ⟨rfl, by rw [vrouter]; exact state⟩)
      (by rw [same]; exact lone_found _ _) rfl, vrouter]
    simp [VirtualRouter.withFsm, masterFsm, lone, zero]

theorem hears_master (pair : RankedPair fromStr) (time : Instant) :
    ∃ packet, pair.backup.heard (bare time) (.vrrpV4 pair.master.ipv4Advert) = some packet ∧
      packet.priority = pair.masterPriority := by
  have advertisable : pair.master.Advertisable := by
    have same : pair.conf.SameVirtualRouter { pair.conf with priority := pair.masterPriority } :=
      rfl
    exact (config_to_vr_same_group fromStr same pair.masterParent pair.masterParent pair.masterIp
      pair.masterIp).advertisable (config_to_vr_advertisable pair.valid.accepted pair.member _ _)
  have understands := advertises_v4 pair.master_reaches_backup advertisable pair.master.primaryIp
    (.v4 vrrpMcastAddr)
  exact ⟨_, heard_v4_iff.mpr ⟨rfl, understands.accepted⟩, rfl⟩

theorem hears_positive (pair : RankedPair fromStr) {packet : VrrpPacket}
    (priority : packet.priority = pair.masterPriority) :
    packet.priority ≠ 0 ∧ pair.backup.priority ≤ packet.priority := by
  rw [priority]
  exact ⟨pair.masterPositive, pair.ranked⟩

theorem exists_backup (pair : RankedPair fromStr) :
    ∃ inst, Instance.machine.Reachable (.new pair.backup) inst ∧ inst.poisoned = false ∧
      inst.vrouter.fsm.state = .backup := by
  let moments : List (Env × Input) :=
    [(lone pair.backup.macVlanInterfaceV4 (-4), .notify .startup),
      (bare (-2), .vrrpV4 pair.master.ipv4Advert)]
  refine ⟨_, Machine.reachable_after _ _ moments, ?_⟩
  simp only [moments, Machine.after_cons, Machine.after_nil, Instance.machine]
  rcases @started pair.backup rfl (-4) with ⟨sound, fsm, vrouter, timer⟩
  have runs := Instance.run_of_step (Instance.run_of_new pair.backup)
    (lone pair.backup.macVlanInterfaceV4 (-4)) (.notify .startup)
  generalize ((Instance.new pair.backup).step (lone pair.backup.macVlanInterfaceV4 (-4))
    (.notify .startup)).1 = inst at sound vrouter runs ⊢
  have state : inst.vrouter.fsm.state ≠ .init := by
    rw [vrouter]
    rcases timer with ⟨master, _⟩ | ⟨backup, _⟩
    · simp [master]
    · simp [backup]
  rcases pair.hears_master (-2) with ⟨packet, hears, priority⟩
  have follows := Instance.step_follows runs sound state hears (pair.hears_positive priority).1
    (pair.hears_positive priority).2
  exact ⟨follows.1, follows.2.1⟩

theorem master_down_interval_short (pair : RankedPair fromStr)
    (zero : pair.conf.advertInterval = 0) {priority : UInt8} (positive : priority ≠ 0) :
    3 * (pair.conf.advertInterval.toNat : ℚ) +
      skewTimeOf pair.conf.version priority pair.conf.advertInterval ≤ 255 / 256 := by
  have atLeast : (1 : ℚ) ≤ priority.toNat := by
    exact_mod_cast Nat.one_le_iff_ne_zero.mpr (positive_toNat.mpr positive)
  cases version : pair.conf.version with
  | v2 =>
      simp only [skewTimeOf, zero, UInt8.toNat_zero, Nat.cast_zero]
      linarith
  | v3 =>
      simp only [skewTimeOf, zero, UInt8.toNat_zero, Nat.cast_zero]
      norm_num

/-- The Master sends at every second and the Backup reads its clock just before the
second advertisement. -/
theorem exists_down (pair : RankedPair fromStr) (zero : pair.conf.advertInterval = 0) :
    ∃ watch : pair.Watch, ¬ watch.NeverDown := by
  have short := @master_down_interval_short fromStr pair zero
  rcases @exists_master pair.master rfl zero
    ((short pair.masterPositive).trans (by norm_num)) with
    ⟨master, masterReachable, masterState, masterSound, type, waiting⟩
  rcases pair.exists_backup with ⟨backup, backupReachable, backupSound, backupState⟩
  rcases pair.hears_master 0 with ⟨packet, hears, priority⟩
  have accepted : (pair.backup.heard (bare 0) (.vrrpV4 pair.master.ipv4Advert)).isSome = true := by
    rw [hears]
    rfl
  let env : ℕ → Env := fun tick => bare tick
  have sends : master.Sends env 0 (.vrrpV4 pair.master.ipv4Advert) := by
    have advertises : Instance.Advertises pair.master master :=
      ⟨Instance.run_of_reachable masterReachable, masterState,
        Instance.reachable_matched rfl masterReachable⟩
    apply (Instance.sends_iff advertises 0 _).mpr
    refine ⟨(Instance.due_iff masterSound type waiting).mpr ?_, mem_adverts.mpr (.inl rfl)⟩
    simp [env, bare]
  have delivers : pair.Delivers master 0 env 0 (.vrrpV4 pair.master.ipv4Advert)
      (bare 0, .vrrpV4 pair.master.ipv4Advert) :=
    ⟨sends, rfl, by simp [env, bare], by simp [bare], accepted⟩
  let moments : List (Env × Input) :=
    [(bare 0, .vrrpV4 pair.master.ipv4Advert), (bare (511 / 512), .tick)]
  have early : ∀ moment ∈ moments, moment.1.now < 1 := by
    simp [moments, bare]
    norm_num
  let watch : pair.Watch :=
    { master, masterReachable, masterState
      phase := 0
      env
      atTick := fun tick => by simp [env, bare]
      inOrder := fun tick => le_refl _
      prompt := fun tick => by simp [env, bare]
      backup, backupReachable, backupState
      backupPhase := 511 / 512
      moments
      backupTicks := ⟨le_refl _, trivial⟩
      unnotified := by simp [moments]
      clock := by simp [moments, bare]
      ordered := by
        simp [moments, bare]
        norm_num
      heard := by
        intro moment member heard
        rcases List.mem_cons.mp member with rfl | later
        · exact ⟨0, _, delivers⟩
        · rw [List.mem_singleton.mp later] at heard
          contradiction
      delivered := by
        intro before moment rest split tick message _ arrived
        have soon := early moment (by rw [split]; simp)
        have nonneg : (0 : ℚ) ≤ tick := Nat.cast_nonneg tick
        linarith }
  refine ⟨watch, fun never => ?_⟩
  apply never [(bare 0, .vrrpV4 pair.master.ipv4Advert)] (bare (511 / 512), .tick) [] rfl rfl
    ⟨_, List.mem_cons_self, accepted⟩
  have follows := Instance.step_follows (Instance.run_of_reachable backupReachable) backupSound
    (by simp [backupState]) hears (pair.hears_positive priority).1
    (pair.hears_positive priority).2
  simp only [watch, Machine.after_cons, Machine.after_nil, Instance.machine]
  apply (Instance.due_iff follows.1 (by rw [follows.2.2]) (by rw [follows.2.2])).mpr
  have interval := short pair.backupPositive
  rw [pair.master_down_interval]
  simp only [bare]
  linarith

/-- In no run does a Backup that has accepted an advertisement find its Master down
exactly when the advertisement interval is not zero. -/
theorem live_master_never_down_iff (pair : RankedPair fromStr) :
    (∀ watch : pair.Watch, watch.NeverDown) ↔ pair.conf.advertInterval ≠ 0 := by
  constructor
  · intro never zero
    rcases pair.exists_down zero with ⟨watch, down⟩
    exact down (never watch)
  · exact fun positive watch => watch.never_down positive

end RankedPair

namespace Sample

/-- The routers of priority 200 and 100 on the hosts 10 and 20. -/
def pairOf (conf : Config) (accepted : validateConfigs parseNet [conf] = .ok ()) :
    RankedPair parseNet where
  valid := { configs := [conf], accepted }
  conf
  member := List.mem_cons_self
  masterPriority := 200
  backupPriority := 100
  masterPositive := by decide
  backupPositive := by decide
  ranked := by decide
  masterParent := parent 10
  backupParent := parent 20
  masterIp := ipv4 10
  backupIp := ipv4 20

theorem config_accepted : validateConfigs parseNet [config .v2 200] = .ok () := rfl

def steadyPair : RankedPair parseNet := pairOf (config .v2 200) config_accepted

/-- Master since a while, with an advertisement due. -/
def steadyMaster : Instance :=
  Instance.machine.after (.new steadyPair.master)
    [(env 10 (-20) [] [], .notify .startup), (env 10 (-10) [] [], .tick)]

def steadyEnv (tick : ℕ) : Env := env 10 tick [] []

/-- The Backup gets the advertisement of the first tick a quarter of a second later. -/
def steadyMoments : List (Env × Input) :=
  [(env 20 (1 / 4) [] [], .vrrpV4 steadyPair.master.ipv4Advert), (env 20 (3 / 4) [] [], .tick),
    (env 20 (7 / 4) [] [], .tick)]

theorem steady_delivers : steadyPair.Delivers steadyMaster 0 steadyEnv 0
    (.vrrpV4 steadyPair.master.ipv4Advert)
    (env 20 (1 / 4) [] [], .vrrpV4 steadyPair.master.ipv4Advert) where
  sent := by
    unfold Instance.Sends
    decide +kernel
  same := rfl
  after := by decide +kernel
  within := by decide +kernel
  accepted := by decide +kernel

theorem steady_heard (moment : Env × Input) (member : moment ∈ steadyMoments)
    (heard : (steadyPair.backup.heard moment.1 moment.2).isSome = true) :
    ∃ tick message, steadyPair.Delivers steadyMaster 0 steadyEnv tick message moment := by
  rcases List.mem_cons.mp member with rfl | later
  · exact ⟨0, _, steady_delivers⟩
  · have silent : ∀ moment ∈ steadyMoments.tail,
        (steadyPair.backup.heard moment.1 moment.2).isSome = false := by decide +kernel
    rw [silent moment later] at heard
    contradiction

/-- All is over before the advertisement of a second tick would be due. -/
theorem steady_delivered (before : List (Env × Input)) (moment : Env × Input)
    (rest : List (Env × Input)) (split : steadyMoments = before ++ moment :: rest) (tick : ℕ)
    (message : Input) (sends : steadyMaster.Sends steadyEnv tick message)
    (arrived : (0 : ℚ) + tick + 1 ≤ moment.1.now) :
    ∃ delivery ∈ before, steadyPair.Delivers steadyMaster 0 steadyEnv tick message delivery := by
  have soon : ∀ moment ∈ steadyMoments, moment.1.now < 2 := by decide +kernel
  have last := soon moment (by rw [split]; simp)
  have first : tick = 0 := by
    have small : (tick : ℚ) < 1 := by linarith
    exact Nat.lt_one_iff.mp (by exact_mod_cast small)
  subst first
  have only : (steadyMaster.step (steadyEnv 0) .tick).2.filterMap Effect.arrival =
      [.vrrpV4 steadyPair.master.ipv4Advert] := by decide +kernel
  have same : message = .vrrpV4 steadyPair.master.ipv4Advert := by
    rw [Instance.Sends, Instance.ticked, only] at sends
    exact List.mem_singleton.mp sends
  subst same
  cases before with
  | nil =>
      cases (List.cons.inj split).1
      norm_num [env] at arrived
  | cons head before =>
      cases (List.cons.inj split).1
      exact ⟨_, List.mem_cons_self, steady_delivers⟩

def steadyWatch : steadyPair.Watch where
  master := steadyMaster
  masterReachable := Instance.machine.reachable_after _ _
  masterState := by decide +kernel
  phase := 0
  env := steadyEnv
  atTick tick := by simp [steadyEnv, env]
  inOrder tick := le_refl _
  prompt tick := by simp [steadyEnv, env]
  backup := Instance.machine.after (.new steadyPair.backup) [(env 20 (-1) [] [], .notify .startup)]
  backupReachable := Instance.machine.reachable_after _ _
  backupState := by decide +kernel
  backupPhase := 3 / 4
  moments := steadyMoments
  backupTicks := ⟨by decide +kernel, by decide +kernel, trivial⟩
  unnotified := by simp [steadyMoments]
  clock := by simp [steadyMoments, env]
  ordered := by decide +kernel
  heard := steady_heard
  delivered := steady_delivered

end Sample

/-- Neither of its ticks after that finds the Master down. -/
theorem RankedPair.steady_master_never_down : Sample.steadyWatch.NeverDown :=
  (live_master_never_down_iff Sample.steadyPair).mpr (by decide) Sample.steadyWatch

def Sample.hastyPair : RankedPair parseNet :=
  pairOf { config .v2 200 with advertInterval := 0 } rfl

/-- With a zero interval a Backup of priority 100 gives up its Master after 156/256 of
a second. -/
theorem RankedPair.zero_interval_down :
    ¬ ∀ watch : Sample.hastyPair.Watch, watch.NeverDown := by
  intro never
  rcases Sample.hastyPair.exists_down rfl with ⟨watch, down⟩
  exact down (never watch)

end Failover
