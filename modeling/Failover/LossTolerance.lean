import Failover.Library.Losses
import Failover.MasterDown

/-!
# How many advertisements in a row may be lost

A Backup gives its Master three intervals and a skew. A Master that ticks once a second
needs up to a second more than an interval for each advertisement, and the last one up
to another second on its way. So the interval and the skew decide how many of them may
be lost.
-/

namespace Failover

open Library VirtualRouter

set_option autoImplicit false

namespace Instance

/-- An instance next to the time of the last advertisement that it accepted. -/
def listening (built : VirtualRouter) :
    Machine (Instance × Option Instant) (Env × Input) Effect :=
  machine.withRecord fun _ moment heard =>
    if (built.heard moment.1 moment.2).isSome then some moment.1.setAt else heard

/-- A tick of the timer task after an advertisement does not find its Master down. -/
def NotDown (current : Instance × Option Instant) (moment : Env × Input) : Prop :=
  moment.2 = .tick → current.2.isSome = true → ¬ current.1.Due moment.1 .masterDown

/-- It is neither notified nor reached by a router below it or one that leaves. -/
structure Guided (built : VirtualRouter) (moment : Env × Input) : Prop where
  unnotified : ∀ event, moment.2 ≠ .notify event
  superior : ∀ packet, built.heard moment.1 moment.2 = some packet →
    packet.priority ≠ 0 ∧ built.priority ≤ packet.priority

structure Heeds (built : VirtualRouter) (current : Instance × Option Instant) : Prop where
  runs : RunOf built current.1
  started : current.1.vrouter.fsm.state ≠ .init
  waits : current.1.poisoned = false → ∀ heardAt, current.2 = some heardAt →
    current.1.vrouter.fsm.timer.tType = .masterDown ∧
      current.1.vrouter.fsm.timer.waitingFor = some (heardAt + built.masterDownInterval)

variable {built : VirtualRouter} {current : Instance × Option Instant} {moment : Env × Input}

theorem advertises_of_reachable {inst : Instance} (fresh : built.fsm = .default)
    (reachable : machine.Reachable (.new built) inst)
    (state : inst.vrouter.fsm.state = .master) : Advertises built inst :=
  ⟨run_of_reachable reachable, state, reachable_matched fresh reachable⟩

theorem heeds_step (heeds : Heeds built current) (guided : Guided built moment)
    (notDown : NotDown current moment) :
    Heeds built ((listening built).step current moment).1 := by
  obtain ⟨inst, heard⟩ := current
  obtain ⟨env, input⟩ := moment
  constructor
  · exact run_of_step heeds.runs env input
  · exact step_not_init env guided.unnotified heeds.started
  · intro sound heardAt noted
    simp only [listening, Machine.withRecord, machine] at sound noted ⊢
    have before : inst.poisoned = false := by
      cases poisoned : inst.poisoned with
      | false => rfl
      | true =>
          rw [step_poisoned poisoned, poisoned] at sound
          contradiction
    cases hears : built.heard env input with
    | some packet =>
        obtain ⟨positive, superior⟩ := guided.superior packet hears
        obtain ⟨_, _, timer⟩ := step_follows heeds.runs before heeds.started hears positive superior
        simp only [hears, Option.isSome_some, if_true, Option.some.injEq] at noted
        rw [timer, ← noted]
        exact ⟨rfl, rfl⟩
    | none =>
        simp only [hears, Option.isSome_none, Bool.false_eq_true, if_false] at noted
        have waits := heeds.waits before heardAt noted
        have unchanged : (inst.step env input).1 = inst := by
          by_cases tick : input = .tick
          · subst tick
            have notAdver : ¬ inst.Due env .adver := by
              intro due
              have other := due_type due
              rw [waits.1] at other
              contradiction
            rw [step_tick_waits (notDown rfl (by simp [noted])) notAdver]
          · apply step_unheard env guided.unnotified tick
            rw [heeds.runs.heard]
            exact hears
        rw [unchanged]
        exact waits

theorem listening_latest (inst : Instance) {moments : List (Env × Input)}
    (clock : ∀ moment ∈ moments, moment.1.now ≤ moment.1.setAt)
    (ordered : moments.Pairwise fun earlier later => earlier.1.setAt ≤ later.1.now)
    {heardAt : Instant}
    (noted : ((listening built).after (inst, none) moments).2 = some heardAt) :
    (∃ last ∈ moments, (built.heard last.1 last.2).isSome = true ∧ last.1.setAt = heardAt) ∧
      ∀ other ∈ moments, (built.heard other.1 other.2).isSome = true →
        other.1.setAt ≤ heardAt := by
  induction moments using List.reverseRecOn generalizing heardAt with
  | nil => contradiction
  | append_singleton before moment ih =>
      rw [List.pairwise_append] at ordered
      have listed : moment ∈ before ++ [moment] := by simp
      rw [Machine.after_append, Machine.after_cons, Machine.after_nil] at noted
      simp only [listening, Machine.withRecord] at noted
      split_ifs at noted with accepted
      · obtain rfl := Option.some.inj noted
        refine ⟨⟨moment, listed, accepted, rfl⟩, ?_⟩
        intro other member _
        rcases List.mem_append.mp member with earlier | same
        · exact (ordered.2.2 other earlier moment List.mem_cons_self).trans (clock moment listed)
        · rw [List.mem_singleton.mp same]
      · have known := ih (fun other member => clock other (List.mem_append_left _ member))
          ordered.1 noted
        obtain ⟨⟨last, member, heard, time⟩, latest⟩ := known
        refine ⟨⟨last, List.mem_append_left _ member, heard, time⟩, ?_⟩
        intro other member heard
        rcases List.mem_append.mp member with earlier | same
        · exact latest other earlier heard
        · rw [List.mem_singleton.mp same] at heard
          exact absurd heard accepted

end Instance

variable {fromStr : String → Option IpNet}

namespace RankedPair

/-- A Master left to its ticks, each handled within a second, and what happens at a
Backup meanwhile: its own ticks, in between some advertisements of the Master and any
input that is dropped. -/
structure Vigil (pair : RankedPair fromStr) where
  master : Instance
  masterReachable : Instance.machine.Reachable (.new pair.master) master
  masterState : master.vrouter.fsm.state = .master
  phase : ℚ
  env : ℕ → Env
  atTick : ∀ tick : ℕ, phase + tick ≤ (env tick).now
  inOrder : ∀ tick, (env tick).now ≤ (env tick).setAt
  prompt : ∀ tick : ℕ, (env tick).setAt < phase + tick + 1
  backup : Instance
  backupReachable : Instance.machine.Reachable (.new pair.backup) backup
  backupState : backup.vrouter.fsm.state = .backup
  backupPhase : ℚ
  moments : List (Env × Input)
  backupTicks : TicksFrom backupPhase moments
  unnotified : ∀ moment ∈ moments, ∀ event, moment.2 ≠ .notify event
  clock : ∀ moment ∈ moments, moment.1.now ≤ moment.1.setAt
  ordered : moments.Pairwise fun earlier later => earlier.1.setAt ≤ later.1.now
  heard : ∀ moment ∈ moments, (pair.backup.heard moment.1 moment.2).isSome = true →
    ∃ tick message, pair.Delivers master phase env tick message moment

namespace Vigil

variable {pair : RankedPair fromStr}

def Advertises (vigil : pair.Vigil) (tick : ℕ) : Prop :=
  (vigil.master.ticked vigil.env tick).Due (vigil.env tick) .adver

instance (vigil : pair.Vigil) : DecidablePred vigil.Advertises :=
  fun _ => inferInstanceAs (Decidable (Instance.Due _ _ _))

def Receives (vigil : pair.Vigil) (inputs : List (Env × Input)) (tick : ℕ) : Prop :=
  ∃ message, ∃ delivery ∈ inputs,
    pair.Delivers vigil.master vigil.phase vigil.env tick message delivery

/-- Of more than this many advertisements in a row the Backup accepts one within a second
of its tick. -/
def LosesInRow (vigil : pair.Vigil) (losses : ℕ) : Prop :=
  ∀ before moment rest, vigil.moments = before ++ moment :: rest →
    LostInRow vigil.Advertises (vigil.Receives before)
      (fun last => vigil.phase + last + 1 ≤ moment.1.now) losses

/-- Once it has accepted an advertisement the Backup never finds its Master down. -/
def NeverDown (vigil : pair.Vigil) : Prop :=
  (Instance.listening pair.backup).AllSteps Instance.NotDown (vigil.backup, none) vigil.moments

theorem master_advertises (vigil : pair.Vigil) : Instance.Advertises pair.master vigil.master :=
  Instance.advertises_of_reachable rfl vigil.masterReachable vigil.masterState

theorem recurs (vigil : pair.Vigil) :
    Recurs vigil.Advertises (pair.conf.advertInterval.toNat + 1) := by
  intro tick due
  obtain ⟨later, after, soon, again⟩ :=
    Instance.sends_again vigil.master_advertises vigil.atTick vigil.prompt due
  exact ⟨later, after, soon, again⟩

theorem guided (vigil : pair.Vigil) {moment : Env × Input} (member : moment ∈ vigil.moments) :
    Instance.Guided pair.backup moment := by
  refine ⟨vigil.unnotified moment member, ?_⟩
  intro packet hears
  obtain ⟨tick, message, delivers⟩ := vigil.heard moment member (by simp [hears])
  have advert := ((Instance.sends_iff vigil.master_advertises tick message).mp delivers.sent).2
  rw [← delivers.same] at advert
  exact pair.hears_positive (heard_priority advert hears)

theorem heeds (vigil : pair.Vigil) {before rest : List (Env × Input)}
    (split : vigil.moments = before ++ rest)
    (notDown : (Instance.listening pair.backup).AllSteps Instance.NotDown (vigil.backup, none)
      before) :
    Instance.Heeds pair.backup ((Instance.listening pair.backup).after (vigil.backup, none)
      before) := by
  have guarded := (Instance.listening pair.backup).all_steps_and_inputs notDown
    fun moment member => vigil.guided (by rw [split]; exact List.mem_append_left _ member)
  apply (Instance.listening pair.backup).guarded_invariant (Instance.Heeds pair.backup) _ _ guarded
  · exact fun current moment heeds step => Instance.heeds_step heeds step.2 step.1
  · constructor
    · exact Instance.run_of_reachable vigil.backupReachable
    · simp [vigil.backupState]
    · intro _ heardAt noted
      contradiction

theorem never_down (vigil : pair.Vigil) {losses : ℕ} (lost : vigil.LosesInRow losses)
    (enough : ((losses + 1) * (pair.conf.advertInterval.toNat + 1) + 1 : ℚ) ≤
      pair.backup.masterDownInterval) : vigil.NeverDown := by
  apply Machine.all_steps_of_splits
  intro before moment rest split earlier tick heard due
  obtain ⟨heardAt, noted⟩ := Option.isSome_iff_exists.mp heard
  obtain ⟨type, waiting⟩ := (vigil.heeds split earlier).waits due.1 heardAt noted
  have late := (Instance.due_iff due.1 type waiting).mp due
  have clock (other : Env × Input) (member : other ∈ before) :=
    vigil.clock other (by rw [split]; exact List.mem_append_left _ member)
  have ordered := vigil.ordered
  rw [split, List.pairwise_append] at ordered
  obtain ⟨⟨last, member, accepted, rfl⟩, latest⟩ :=
    Instance.listening_latest vigil.backup clock ordered.1 noted
  obtain ⟨tick, message, delivers⟩ := vigil.heard last
    (by rw [split]; exact List.mem_append_left _ member) accepted
  have sends := ((Instance.sends_iff vigil.master_advertises tick message).mp delivers.sent).1
  have past : vigil.phase + (tick + (losses + 1) * (pair.conf.advertInterval.toNat + 1) : ℕ) + 1 ≤
      moment.1.now := by
    push_cast
    linarith [vigil.atTick tick, delivers.after]
  obtain ⟨later, after, newer, delivery, listed, arrives⟩ :=
    (lost before moment rest split).arrives_again vigil.recurs sends past
  have order := latest delivery listed arrives.accepted
  have afterTime : (tick : ℚ) + 1 ≤ later := by exact_mod_cast after
  linarith [vigil.atTick later, arrives.after, delivers.within]

end Vigil

/-! A Master can be as slow as that, and lose the advertisements that matter. -/

theorem exists_due_master {built : VirtualRouter} (fresh : built.fsm = .default)
    (patient : 0 ≤ built.masterDownInterval) :
    ∃ inst, Instance.machine.Reachable (.new built) inst ∧ inst.vrouter.fsm.state = .master ∧
      inst.poisoned = false ∧ inst.vrouter.fsm.timer.tType = .adver ∧
        inst.vrouter.fsm.timer.waitingFor = some (-1) := by
  let takesOver : Instant := -1 - built.advertInterval.toNat
  let starts : Instant := takesOver - built.masterDownInterval - built.advertInterval.toNat - 1
  let moments : List (Env × Input) :=
    [(lone built.macVlanInterfaceV4 starts, .notify .startup),
      (lone built.macVlanInterfaceV4 takesOver, .tick)]
  refine ⟨_, Machine.reachable_after _ _ moments, ?_⟩
  simp only [moments, Machine.after_cons, Machine.after_nil, Instance.machine]
  obtain ⟨sound, fsm, vrouter, timer⟩ := started fresh starts
  generalize ((Instance.new built).step (lone built.macVlanInterfaceV4 starts)
    (.notify .startup)).1 = inst at sound vrouter ⊢
  have same : inst.vrouter.macVlanInterfaceV4 = built.macVlanInterfaceV4 := by rw [vrouter]; rfl
  have interval : inst.vrouter.advertInterval = built.advertInterval := by rw [vrouter]; rfl
  have positive : (0 : ℚ) ≤ built.advertInterval.toNat := Nat.cast_nonneg _
  rcases timer with ⟨state, type, waiting⟩ | ⟨state, type, waiting⟩
  · have due : inst.Due (lone built.macVlanInterfaceV4 takesOver) .adver := by
      apply (Instance.due_iff sound (by rw [vrouter]; exact type)
        (by rw [vrouter]; exact waiting)).mpr
      simp only [lone, starts]
      linarith
    rw [Instance.step_tick_advertises due, interval, vrouter]
    simp [VirtualRouter.withFsm, state, lone, takesOver]
  · have due : inst.Due (lone built.macVlanInterfaceV4 takesOver) .masterDown := by
      apply (Instance.due_iff sound (by rw [vrouter]; exact type)
        (by rw [vrouter]; exact waiting)).mpr
      simp only [lone, starts]
      linarith
    have fires : Fires (lone built.macVlanInterfaceV4 takesOver) inst.vrouter .tick .masterDown :=
      .tick due.2
    rw [Instance.step_takes_over sound fires (.inr ⟨rfl, by rw [vrouter]; exact state⟩)
      (by rw [same]; exact lone_found _ _) rfl, vrouter]
    simp [VirtualRouter.withFsm, masterFsm, lone, takesOver]

def slow (tick : ℕ) : Env where
  interfaces := []
  now := tick
  setAt := tick + 1 / 2

theorem next_multiple_iff (count interval : ℕ) :
    count / (interval + 1) * (interval + 1) + interval < count + 1 ↔
      interval + 1 ∣ count + 1 := by
  have whole := Nat.div_add_mod' count (interval + 1)
  have part : count % (interval + 1) < interval + 1 := Nat.mod_lt count (Nat.succ_pos interval)
  constructor
  · intro passed
    refine ⟨count / (interval + 1) + 1, ?_⟩
    calc count + 1 = count / (interval + 1) * (interval + 1) + (interval + 1) := by omega
      _ = (interval + 1) * (count / (interval + 1) + 1) := by ring
  · intro divides
    have rest : interval + 1 ∣ count % (interval + 1) + 1 := by
      rw [← whole, Nat.add_assoc] at divides
      exact (Nat.dvd_add_right (Nat.dvd_mul_left _ _)).mp divides
    have least := Nat.le_of_dvd (Nat.succ_pos _) rest
    omega

theorem slow_advertises {built : VirtualRouter} {inst : Instance}
    (advertises : Instance.Advertises built inst)
    (waiting : inst.vrouter.fsm.timer.waitingFor = some (-1)) (tick : ℕ) :
    (inst.ticked slow tick).Due (slow tick) .adver ↔ built.advertInterval.toNat + 1 ∣ tick := by
  have ticking (count : ℕ) := Instance.advertises_ticked advertises slow count
  have due_iff (count : ℕ) {deadline : Instant}
      (armed : (inst.ticked slow count).vrouter.fsm.timer.waitingFor = some deadline) :
      (inst.ticked slow count).Due (slow count) .adver ↔ deadline < count := by
    have matched := (ticking count).matched
    simp only [VirtualRouterMachine.Matched, (ticking count).state] at matched
    exact Instance.due_iff ((ticking count).runs.sound_of_master (ticking count).state) matched.1
      armed
  have sent (count : ℕ) (due : (inst.ticked slow count).Due (slow count) .adver) :
      (inst.ticked slow (count + 1)).vrouter.fsm.timer.waitingFor =
        some (count + 1 / 2 + (built.advertInterval.toNat : ℚ)) := by
    rw [Instance.deadline_after_sending due, (ticking count).runs.advert_interval]
    rfl
  -- After each tick the deadline is that of the last multiple of the period.
  let lastSent (count : ℕ) : ℕ :=
    count / (built.advertInterval.toNat + 1) * (built.advertInterval.toNat + 1)
  have due_next (count : ℕ) (armed : (inst.ticked slow (count + 1)).vrouter.fsm.timer.waitingFor =
      some (lastSent count + 1 / 2 + (built.advertInterval.toNat : ℚ))) :
      (inst.ticked slow (count + 1)).Due (slow (count + 1)) .adver ↔
        built.advertInterval.toNat + 1 ∣ count + 1 := by
    rw [due_iff (count + 1) armed, ← next_multiple_iff]
    constructor
    · intro late
      have soon : ((lastSent count + built.advertInterval.toNat : ℕ) : ℚ) < (count + 1 : ℕ) := by
        push_cast at late ⊢
        linarith
      exact Nat.cast_lt.mp soon
    · intro passed
      have soon : ((lastSent count + built.advertInterval.toNat + 1 : ℕ) : ℚ) ≤ (count + 1 : ℕ) :=
        Nat.cast_le.mpr passed
      push_cast at soon ⊢
      linarith
  have armed (count : ℕ) : (inst.ticked slow (count + 1)).vrouter.fsm.timer.waitingFor =
      some (lastSent count + 1 / 2 + (built.advertInterval.toNat : ℚ)) := by
    induction count with
    | zero =>
        rw [sent 0 ((due_iff 0 waiting).mpr (by norm_num))]
        simp [lastSent]
    | succ count ih =>
        by_cases sends : built.advertInterval.toNat + 1 ∣ count + 1
        · rw [sent (count + 1) ((due_next count ih).mpr sends)]
          simp only [lastSent, Nat.div_mul_cancel sends]
        · rw [Instance.ticked, Instance.step_tick_waits ((ticking _).not_due_master_down _)
            (mt (due_next count ih).mp sends), ih]
          simp only [lastSent, Nat.succ_div_of_not_dvd sends]
  cases tick with
  | zero => exact iff_of_true ((due_iff 0 waiting).mpr (by norm_num)) (dvd_zero _)
  | succ count => exact due_next count (armed count)

theorem lost_in_row {period losses : ℕ} {given arrives settled : ℕ → Prop}
    [DecidablePred given] (regular : ∀ tick, given tick ↔ period ∣ tick) (first : arrives 0)
    (early : ∀ tick, settled tick → tick < (losses + 1) * period) :
    LostInRow given arrives settled losses := by
  intro least last past more
  refine ⟨0, ?_, first⟩
  rw [Finset.mem_Icc]
  refine ⟨?_, Nat.zero_le _⟩
  by_contra later
  have within : (Finset.Icc least last).filter given ⊆
      (Finset.Icc 1 losses).image fun count => count * period := by
    intro tick member
    rw [Finset.mem_filter, Finset.mem_Icc, regular] at member
    obtain ⟨⟨lower, upper⟩, count, rfl⟩ := member
    rw [Finset.mem_image]
    refine ⟨count, ?_, Nat.mul_comm _ _⟩
    rw [Finset.mem_Icc]
    have bound : period * count < period * (losses + 1) := by
      rw [Nat.mul_comm period (losses + 1)]
      exact upper.trans_lt (early last past)
    refine ⟨Nat.pos_of_ne_zero ?_, Nat.le_of_lt_succ (Nat.lt_of_mul_lt_mul_left bound)⟩
    rintro rfl
    omega
  have few := (Finset.card_le_card within).trans Finset.card_image_le
  rw [Nat.card_Icc] at few
  omega

theorem exists_lost (pair : RankedPair fromStr) (losses : ℕ)
    (short : pair.backup.masterDownInterval <
      (losses + 1) * (pair.conf.advertInterval.toNat + 1) + 1) :
    ∃ vigil : pair.Vigil, vigil.LosesInRow losses ∧ ¬ vigil.NeverDown := by
  have patient {priority : UInt8} : 0 ≤ 3 * (pair.conf.advertInterval.toNat : ℚ) +
      skewTimeOf pair.conf.version priority pair.conf.advertInterval :=
    add_nonneg (by positivity) (skew_time_nonneg _ _ _)
  obtain ⟨master, masterReachable, masterState, masterSound, type, waiting⟩ :=
    @exists_due_master pair.master rfl patient
  obtain ⟨backup, backupReachable, backupSound, backupState⟩ := pair.exists_backup
  obtain ⟨packet, hears, priority⟩ := pair.hears_master 0
  have advertises : Instance.Advertises pair.master master :=
    Instance.advertises_of_reachable rfl masterReachable masterState
  have regular := slow_advertises advertises waiting
  have sends : master.Sends slow 0 (.vrrpV4 pair.master.ipv4Advert) :=
    (Instance.sends_iff advertises 0 _).mpr
      ⟨(regular 0).mpr (dvd_zero _), mem_adverts.mpr (.inl rfl)⟩
  have delivers : pair.Delivers master 0 slow 0 (.vrrpV4 pair.master.ipv4Advert)
      (bare 0, .vrrpV4 pair.master.ipv4Advert) :=
    ⟨sends, rfl, by simp [slow, bare], by simp [bare], by rw [hears]; rfl⟩
  obtain ⟨reading, late, soon⟩ := exists_between short
  have zero : (0 : ℚ) ≤ reading := (patient.trans_lt late).le
  let moments : List (Env × Input) :=
    [(bare 0, .vrrpV4 pair.master.ipv4Advert), (bare reading, .tick)]
  let vigil : pair.Vigil :=
    { master, masterReachable, masterState
      phase := 0
      env := slow
      atTick := fun tick => by simp [slow]
      inOrder := fun tick => by simp [slow]
      prompt := fun tick => by
        simp only [slow]
        linarith
      backup, backupReachable, backupState
      backupPhase := reading
      moments
      backupTicks := ⟨le_refl _, trivial⟩
      unnotified := by simp [moments]
      clock := by simp [moments, bare]
      ordered := by simp [moments, bare, zero]
      heard := by
        intro moment member heard
        rcases List.mem_cons.mp member with rfl | later
        · exact ⟨0, _, delivers⟩
        · rw [List.mem_singleton.mp later] at heard
          contradiction }
  refine ⟨vigil, ?_, ?_⟩
  · intro before moment rest split
    rcases before with _ | ⟨first, _ | ⟨second, tail⟩⟩
    · obtain ⟨rfl, _⟩ := List.cons.inj split
      intro least last past
      have nonneg : (0 : ℚ) ≤ last := Nat.cast_nonneg last
      simp only [vigil, bare] at past
      linarith
    · obtain ⟨rfl, same⟩ := List.cons.inj split
      obtain ⟨rfl, _⟩ := List.cons.inj same
      apply lost_in_row regular ⟨_, _, List.mem_cons_self, delivers⟩
      intro tick past
      have before : (tick : ℚ) < ((losses + 1) * (pair.conf.advertInterval.toNat + 1) : ℕ) := by
        simp only [vigil, bare] at past
        push_cast
        linarith
      exact Nat.cast_lt.mp before
    · have length := congrArg List.length split
      simp [vigil, moments] at length
  · intro never
    have follows := Instance.step_follows (Instance.run_of_reachable backupReachable) backupSound
      (by simp [backupState]) hears (pair.hears_positive priority).1
      (pair.hears_positive priority).2
    have accepted : (pair.backup.heard (bare 0)
        (.vrrpV4 pair.master.ipv4Advert)).isSome = true := by
      rw [hears]
      rfl
    apply never.2.1 rfl
    · simp only [Instance.listening, Machine.withRecord, if_pos accepted]
      rfl
    · apply (Instance.due_iff follows.1 (by rw [follows.2.2]) (by rw [follows.2.2])).mpr
      simp only [bare, zero_add]
      exact late

/-- A Backup gets over this many lost advertisements in a row, whenever they and its own
ticks come, exactly when its master-down interval holds the periods of one more and a
second. -/
theorem survives_losses_iff (pair : RankedPair fromStr) (losses : ℕ) :
    (∀ vigil : pair.Vigil, vigil.LosesInRow losses → vigil.NeverDown) ↔
      ((losses + 1) * (pair.conf.advertInterval.toNat + 1) + 1 : ℚ) ≤
        pair.backup.masterDownInterval := by
  constructor
  · intro survives
    by_contra short
    obtain ⟨vigil, lost, down⟩ := pair.exists_lost losses (not_le.mp short)
    exact down (survives vigil lost)
  · exact fun enough vigil lost => vigil.never_down lost enough

/-- In version 2 that is one advertisement, and only for intervals of three seconds or more. -/
theorem v2_survives_iff (pair : RankedPair fromStr) (version : pair.conf.version = .v2)
    (losses : ℕ) :
    (∀ vigil : pair.Vigil, vigil.LosesInRow (losses + 1) → vigil.NeverDown) ↔
      losses = 0 ∧ 3 ≤ pair.conf.advertInterval.toNat := by
  rw [survives_losses_iff, pair.master_down_interval]
  have positive : (1 : ℚ) ≤ pair.backupPriority.toNat := by
    exact_mod_cast Nat.one_le_iff_ne_zero.mpr (positive_toNat.mpr pair.backupPositive)
  have skew : skewTimeOf pair.conf.version pair.backupPriority pair.conf.advertInterval < 1 := by
    simp only [skewTimeOf, version]
    linarith
  have nonneg := skew_time_nonneg pair.conf.version pair.backupPriority pair.conf.advertInterval
  generalize pair.conf.advertInterval.toNat = interval
  push_cast
  constructor
  · intro enough
    have fits : ((losses + 2) * (interval + 1) : ℕ) < ((3 * interval : ℕ) : ℚ) := by
      push_cast
      linarith
    have whole : (losses + 2) * (interval + 1) < 3 * interval := Nat.cast_lt.mp fits
    cases losses with
    | zero => omega
    | succ more =>
        have three : 3 * (interval + 1) ≤ (more + 1 + 2) * (interval + 1) :=
          Nat.mul_le_mul_right _ (by omega)
        omega
  · rintro ⟨rfl, atLeast⟩
    have bound : (3 : ℚ) ≤ interval := by exact_mod_cast atLeast
    push_cast
    linarith

end RankedPair

end Failover
