import Failover.Library.Outranking
import Failover.Preemption

/-!
# One Master after enough rounds

An advertisement makes a Backup of each router that does not rank above its sender, and
a Master of those above it that pre-empt. Once every Master is heard by all the others,
round after round, only one router is still Master, however many there were and in
whatever order they are heard: the best of those that were Master or pre-empt.
-/

namespace Failover

open Library VirtualRouter

set_option autoImplicit false

structure VirtualRouterGroup {Name : Type*} (built : Name → VirtualRouter) : Prop where
  ready : ∀ name, (built name).Prepared
  advertisable : ∀ name, (built name).Advertisable
  group : ∀ left right, SameGroup (built left) (built right)
  positive : ∀ name, (built name).priority ≠ 0

namespace Cluster

variable {Name : Type*}

def IsMaster (cluster : Cluster Name) (name : Name) : Prop :=
  (cluster.locals name).vrouter.fsm.state = .master

def Preempts (built : Name → VirtualRouter) (name : Name) : Prop :=
  (built name).preemptMode = true

/-- It is Master, or it becomes Master as soon as it hears a lower one. -/
def Contends (built : Name → VirtualRouter) (cluster : Cluster Name) (name : Name) : Prop :=
  Preempts built name ∨ cluster.IsMaster name

structure Engaged (built : Name → VirtualRouter) (cluster : Cluster Name) : Prop where
  runs : ∀ name, Instance.RunOf (built name) (cluster.locals name)
  sound : ∀ name, (cluster.locals name).poisoned = false
  state : ∀ name, (cluster.locals name).vrouter.fsm.state ≠ .init

/-- An input without meaning for the election: a tick before the deadline of a Backup, a
dropped packet, an ARP or NDP packet. -/
def Uneventful (cluster : Cluster Name) (move : Name × Env × Input) : Prop :=
  ∀ signal, Means move.2.1 (cluster.locals move.1).vrouter move.2.2 signal → signal = .quiet

/-- An advertisement of another router arrives and passes the source filter. -/
structure Delivers (built : Name → VirtualRouter) (move : Name × Env × Input)
    (sender : Name) : Prop where
  other : move.1 ≠ sender
  sent : move.2.2 ∈ (built sender).adverts
  elsewhere : ¬ move.2.2.FromLocal move.2.1

abbrev masters [DecidableEq Name] :
    Machine (Cluster Name × (Name → Prop)) (Name × Env × Input) Input :=
  (Soup.machine Instance.party).noting IsMaster

/-- Every router that is Master when the round starts is heard by all the others, and
nobody is heard who has not been Master in the round. -/
structure AdvertRound [DecidableEq Name] (built : Name → VirtualRouter) (cluster : Cluster Name)
    (moves : List (Name × Env × Input)) : Prop where
  talk : masters.AllSteps (fun current move => Uneventful current.1 move ∨
    ∃ sender, current.2 sender ∧ Delivers built move sender) (cluster, IsMaster cluster) moves
  heard : ∀ sender listener, cluster.IsMaster sender → listener ≠ sender →
    ∃ move ∈ moves, move.1 = listener ∧ Delivers built move sender

def AdvertRounds [DecidableEq Name] (built : Name → VirtualRouter) (cluster : Cluster Name) :
    List (List (Name × Env × Input)) → Prop
  | [] => True
  | moves :: rest => AdvertRound built cluster moves ∧
      AdvertRounds built ((Soup.machine Instance.party).after cluster moves) rest

instance (cluster : Cluster Name) (name : Name) : Decidable (cluster.IsMaster name) :=
  inferInstanceAs (Decidable (_ = _))

instance (built : Name → VirtualRouter) (name : Name) : Decidable (Preempts built name) :=
  inferInstanceAs (Decidable (_ = _))

instance (built : Name → VirtualRouter) (cluster : Cluster Name) (name : Name) :
    Decidable (cluster.Contends built name) :=
  inferInstanceAs (Decidable (_ ∨ _))

instance [DecidableEq Name] (built : Name → VirtualRouter) (move : Name × Env × Input)
    (sender : Name) : Decidable (Delivers built move sender) :=
  decidable_of_iff (move.1 ≠ sender ∧ move.2.2 ∈ (built sender).adverts ∧
      ¬ move.2.2.FromLocal move.2.1)
    ⟨fun ⟨other, sent, elsewhere⟩ => ⟨other, sent, elsewhere⟩,
      fun delivers => ⟨delivers.other, delivers.sent, delivers.elsewhere⟩⟩

variable {built : Name → VirtualRouter}

theorem uneventful_step {inst : Instance} (sound : inst.poisoned = false) {env : Env}
    {input : Input} (quiet : ∀ signal, Means env inst.vrouter input signal → signal = .quiet) :
    (inst.step env input).1.poisoned = false ∧
      (inst.step env input).1.vrouter.fsm.state = inst.vrouter.fsm.state := by
  constructor
  · have transition := Instance.step_transition sound env input
    cases panicked : (inst.step env input).1.poisoned with
    | false => rfl
    | true =>
        rw [panicked] at transition
        generalize (inst.step env input).1.vrouter = next at transition
        generalize (inst.step env input).2 = effects at transition
        cases transition with
        | panics fires takesOver =>
            rcases takesOver with ⟨rfl, _⟩ | ⟨rfl, _⟩
            · exact absurd (quiet _ (.start fires)) (by simp)
            · exact absurd (quiet _ (.expire fires)) (by simp)
  · obtain ⟨signal, means, stepped⟩ := step_simulates inst env input
    obtain rfl := quiet signal means
    rw [stepped]
    cases inst.vrouter.fsm.state <;> rfl

/-- A router is Master after an advertisement exactly if it ranks above the sender and
pre-empts or was Master before. -/
theorem delivery_decides (members : VirtualRouterGroup built) {inst : Instance}
    {move : Name × Env × Input} (runs : Instance.RunOf (built move.1) inst)
    (sound : inst.poisoned = false) (state : inst.vrouter.fsm.state ≠ .init) {sender : Name}
    (different : (built sender).priority ≠ (built move.1).priority)
    (delivers : Delivers built move sender) :
    (inst.step move.2.1 move.2.2).1.poisoned = false ∧
      (inst.step move.2.1 move.2.2).1.vrouter.fsm.state =
        if (built sender).priority.toNat < (built move.1).priority.toNat ∧
          (Preempts built move.1 ∨ inst.vrouter.fsm.state = .master) then .master
        else .backup := by
  obtain ⟨name, env, input⟩ := move
  obtain ⟨packet, hears, priority⟩ := advert_heard (members.group sender name)
    (members.advertisable sender) (members.ready sender) (members.ready name) runs delivers.sent
    delivers.elsewhere
  have transition := Instance.step_transition sound env input
  refine ⟨(transition_hearing transition hears).2, ?_⟩
  have own : inst.vrouter.candidate.priority = (built name).priority.toNat :=
    congrArg UInt8.toNat runs.priority
  have preempt : inst.vrouter.candidate.preempt = (built name).preemptMode := by
    obtain ⟨fsm, config⟩ := runs.config
    rw [config]
    rfl
  have positive : (built sender).priority.toNat ≠ 0 :=
    positive_toNat.mpr (members.positive sender)
  rw [state_after_hearing transition hears, priority]
  have apart : (built sender).priority.toNat ≠ (built name).priority.toNat :=
    fun same => different (UInt8.toNat_inj.mp same)
  cases before : inst.vrouter.fsm.state with
  | init => exact absurd before state
  | backup =>
      simp only [Candidate.next, Preempts, positive, preempt, own, ne_eq, not_false_eq_true,
        true_and, reduceCtorEq, or_false, and_comm]
  | master =>
      simp only [Candidate.next, own, or_true, and_true]
      by_cases lower : (built sender).priority.toNat < (built name).priority.toNat
      · rw [if_pos lower, if_neg (by omega)]
      · rw [if_neg lower, if_pos (by omega)]

variable [DecidableEq Name]

theorem calm_of_uneventful {cluster : Cluster Name} (engaged : Engaged built cluster)
    {move : Name × Env × Input} (quiet : cluster.Uneventful move) :
    (Soup.machine Instance.party).Calm IsMaster cluster move := by
  intro name
  obtain ⟨mover, moment⟩ := move
  by_cases same : name = mover
  · subst same
    unfold IsMaster
    rw [Soup.step_locals_self]
    exact Eq.congr_left (uneventful_step (engaged.sound name) quiet).2
  · unfold IsMaster
    rw [Soup.step_locals_other Instance.party cluster same]

theorem hears_of_delivers (members : VirtualRouterGroup built)
    (distinct : Function.Injective fun name => (built name).priority) {cluster : Cluster Name}
    (engaged : Engaged built cluster) {move : Name × Env × Input} {sender : Name}
    (delivers : Delivers built move sender) :
    (Soup.machine Instance.party).Hears IsMaster (Preempts built)
      (fun name => (built name).priority.toNat) cluster move move.1 sender := by
  have apart : (built sender).priority ≠ (built move.1).priority :=
    fun same => delivers.other (distinct same).symm
  have decided := delivery_decides members (engaged.runs move.1) (engaged.sound move.1)
    (engaged.state move.1) apart delivers
  constructor
  · exact delivers.other
  · unfold IsMaster
    rw [Soup.step_locals_self]
    apply (Eq.congr_left decided.2).trans
    split
    · rename_i stands
      exact iff_of_true rfl stands
    · rename_i yields
      exact iff_of_false (by decide) yields
  · intro name other
    unfold IsMaster
    rw [Soup.step_locals_other Instance.party cluster other]

theorem engaged_step (members : VirtualRouterGroup built)
    (distinct : Function.Injective fun name => (built name).priority) {heard : Name → Prop}
    (cluster : Cluster Name) (move : Name × Env × Input) (engaged : Engaged built cluster)
    (talk : Uneventful cluster move ∨ ∃ sender, heard sender ∧ Delivers built move sender) :
    Engaged built ((Soup.machine Instance.party).step cluster move).1 := by
  obtain ⟨mover, env, input⟩ := move
  have moved : ((cluster.locals mover).step env input).1.poisoned = false ∧
      ((cluster.locals mover).step env input).1.vrouter.fsm.state ≠ .init := by
    rcases talk with quiet | ⟨sender, _, delivers⟩
    · have still := uneventful_step (engaged.sound mover) quiet
      rw [still.2]
      exact ⟨still.1, engaged.state mover⟩
    · have apart : (built sender).priority ≠ (built mover).priority :=
        fun same => delivers.other (distinct same).symm
      have decided := delivery_decides members (engaged.runs mover) (engaged.sound mover)
        (engaged.state mover) apart delivers
      rw [decided.2]
      exact ⟨decided.1, by split <;> decide⟩
  have each (holds : Name → Instance → Prop) (before : ∀ name, holds name (cluster.locals name))
      (after : holds mover ((cluster.locals mover).step env input).1) (name : Name) :
      holds name (((Soup.machine Instance.party).step cluster (mover, env, input)).1.locals
        name) := by
    by_cases same : name = mover
    · subst same
      rw [Soup.step_locals_self]
      exact after
    · rw [Soup.step_locals_other Instance.party cluster same]
      exact before name
  constructor
  · exact each (fun name inst => Instance.RunOf (built name) inst) engaged.runs
      (Instance.run_of_step (engaged.runs mover) env input)
  · exact each (fun _ inst => inst.poisoned = false) engaged.sound moved.1
  · exact each (fun _ inst => inst.vrouter.fsm.state ≠ .init) engaged.state moved.2

theorem round_of_adverts (members : VirtualRouterGroup built)
    (distinct : Function.Injective fun name => (built name).priority) {cluster : Cluster Name}
    (engaged : Engaged built cluster) {moves : List (Name × Env × Input)}
    (round : AdvertRound built cluster moves) :
    Engaged built ((Soup.machine Instance.party).after cluster moves) ∧
      (Soup.machine Instance.party).Round IsMaster (Preempts built)
        (fun name => (built name).priority.toNat) cluster moves := by
  have kept (current : Cluster Name × (Name → Prop)) (move : Name × Env × Input)
      (reached : Engaged built current.1) (talk : Uneventful current.1 move ∨
        ∃ sender, current.2 sender ∧ Delivers built move sender) :
      Engaged built (masters.step current move).1.1 :=
    engaged_step members distinct current.1 move reached talk
  have stays {inputs : List (Name × Env × Input)} (talk : masters.AllSteps
      (fun current move => Uneventful current.1 move ∨
        ∃ sender, current.2 sender ∧ Delivers built move sender)
      (cluster, IsMaster cluster) inputs) :
      Engaged built ((Soup.machine Instance.party).after cluster inputs) := by
    rw [← Machine.noting_after (cluster, IsMaster cluster)]
    exact masters.guarded_invariant (fun current => Engaged built current.1) kept engaged talk
  refine ⟨stays round.talk, ?_, ?_⟩
  · apply masters.all_steps_mono (fun current => Engaged built current.1) kept _ engaged round.talk
    intro current move reached talk
    apply talk.imp
    · exact calm_of_uneventful reached
    · intro ⟨sender, master, delivers⟩
      exact ⟨move.1, sender, master, hears_of_delivers members distinct reached delivers⟩
  · intro sender listener master different
    obtain ⟨move, member, rfl, delivers⟩ := round.heard sender listener master different
    obtain ⟨before, rest, split⟩ := List.append_of_mem member
    have talk := round.talk
    rw [split, masters.all_steps_append] at talk
    exact ⟨before, move, rest, split, hears_of_delivers members distinct (stays talk.1) delivers⟩

theorem round_of_deliveries {cluster : Cluster Name} {moves : List (Name × Env × Input)}
    (deliveries : ∀ move ∈ moves, ∃ sender, cluster.IsMaster sender ∧ Delivers built move sender)
    (heard : ∀ sender listener, cluster.IsMaster sender → listener ≠ sender →
      ∃ move ∈ moves, move.1 = listener ∧ Delivers built move sender) :
    AdvertRound built cluster moves := by
  refine ⟨?_, heard⟩
  suffices talk : ∀ current : Cluster Name × (Name → Prop),
      (∀ name, cluster.IsMaster name → current.2 name) →
      masters.AllSteps (fun current move => Uneventful current.1 move ∨
        ∃ sender, current.2 sender ∧ Delivers built move sender) current moves from
    talk (cluster, cluster.IsMaster) fun _ => id
  clear heard
  induction moves with
  | nil => exact fun _ _ => trivial
  | cons move rest ih =>
      intro current noted
      obtain ⟨sender, master, delivers⟩ := deliveries move List.mem_cons_self
      refine ⟨.inr ⟨sender, noted sender master, delivers⟩, ?_⟩
      apply ih (fun later member => deliveries later (List.mem_cons_of_mem move member))
      exact fun name master => .inl (noted name master)

theorem rounds_of_adverts (members : VirtualRouterGroup built)
    (distinct : Function.Injective fun name => (built name).priority)
    {rounds : List (List (Name × Env × Input))} {cluster : Cluster Name}
    (engaged : Engaged built cluster) (all : AdvertRounds built cluster rounds) :
    Engaged built ((Soup.machine Instance.party).after cluster rounds.flatten) ∧
      (Soup.machine Instance.party).Rounds IsMaster (Preempts built)
        (fun name => (built name).priority.toNat) cluster rounds := by
  induction rounds generalizing cluster with
  | nil => exact ⟨engaged, trivial⟩
  | cons moves rest ih =>
      obtain ⟨next, round⟩ := round_of_adverts members distinct engaged all.1
      obtain ⟨last, later⟩ := ih next all.2
      rw [List.flatten_cons, Machine.after_append]
      exact ⟨last, round, later⟩

theorem best_elected [Fintype Name] (members : VirtualRouterGroup built)
    (distinct : Function.Injective fun name => (built name).priority) {best : Name}
    {cluster : Cluster Name} (engaged : Engaged built cluster)
    (contends : Contends built cluster best)
    (greatest : ∀ name, Contends built cluster name → (built name).priority ≤ (built best).priority)
    (someone : ∃ name, cluster.IsMaster name)
    {rounds : List (List (Name × Env × Input))} (all : AdvertRounds built cluster rounds)
    (enough : Fintype.card Name ≤ rounds.length) (name : Name) :
    (((Soup.machine Instance.party).after cluster rounds.flatten).locals name).vrouter.fsm.state =
      if name = best then .master else .backup := by
  obtain ⟨last, general⟩ := rounds_of_adverts members distinct engaged all
  have ranked : Function.Injective fun name => (built name).priority.toNat :=
    fun _ _ same => distinct (UInt8.toNat_inj.mp same)
  have alone := Machine.only_top_stands ranked greatest contends general someone enough name
  unfold IsMaster at alone
  have running := last.state name
  split
  · rename_i top
    exact alone.mpr top
  · rename_i other
    have notMaster := mt alone.mp other
    cases state : (((Soup.machine Instance.party).after cluster
      rounds.flatten).locals name).vrouter.fsm.state with
    | init => exact absurd state running
    | backup => rfl
    | master => exact absurd state notMaster

end Cluster

theorem virtual_router_group_of_configs {fromStr : String → Option IpNet} {configs : List Config}
    (accepted : validateConfigs fromStr configs = .ok ()) {base : Config} (member : base ∈ configs)
    {Name : Type*} {conf : Name → Config} (same : ∀ name, base.SameVirtualRouter (conf name))
    (positive : ∀ name, (conf name).priority ≠ 0) (parent : Name → NetworkInterface)
    (primaryIp : Name → Ipv4Addr) :
    VirtualRouterGroup fun name =>
      (configToVr fromStr (conf name)).prepare (parent name) (primaryIp name) := by
  have fromBase (first name : Name) := config_to_vr_same_group fromStr (same name) (parent first)
    (parent name) (primaryIp first) (primaryIp name)
  constructor
  · exact fun name => prepared_of_same accepted member (same name) _ _
  · exact fun name =>
      (fromBase name name).advertisable (config_to_vr_advertisable accepted member _ _)
  · exact fun left right => (fromBase left left).symm.trans (fromBase left right)
  · exact positive

/-- Whoever is Master at first and whoever pre-empts, after as many rounds as there are
routers the best of these is Master and all the others are Backup. -/
theorem rounds_elect_best {fromStr : String → Option IpNet} {configs : List Config}
    (accepted : validateConfigs fromStr configs = .ok ()) {base : Config}
    (member : base ∈ configs) {Name : Type*} [DecidableEq Name] [Fintype Name]
    {conf : Name → Config} (same : ∀ name, base.SameVirtualRouter (conf name))
    (positive : ∀ name, (conf name).priority ≠ 0)
    (distinct : Function.Injective fun name => (conf name).priority)
    {parent : Name → NetworkInterface} {primaryIp : Name → Ipv4Addr}
    {built : Name → VirtualRouter}
    (builds : built = fun name =>
      (configToVr fromStr (conf name)).prepare (parent name) (primaryIp name))
    {cluster : Cluster Name}
    (reachable : ∀ name, Instance.machine.Reachable (.new (built name)) (cluster.locals name))
    (sound : ∀ name, (cluster.locals name).poisoned = false)
    (started : ∀ name, (cluster.locals name).vrouter.fsm.state ≠ .init)
    {best : Name} (contends : cluster.Contends built best)
    (greatest : ∀ name, cluster.Contends built name → (conf name).priority ≤ (conf best).priority)
    (someone : ∃ name, cluster.IsMaster name) {rounds : List (List (Name × Env × Input))}
    (all : Cluster.AdvertRounds built cluster rounds)
    (enough : Fintype.card Name ≤ rounds.length) (name : Name) :
    (((Soup.machine Instance.party).after cluster rounds.flatten).locals name).vrouter.fsm.state =
      if name = best then .master else .backup := by
  have members : VirtualRouterGroup built := by
    rw [builds]
    exact virtual_router_group_of_configs accepted member same positive parent primaryIp
  have ranks (name : Name) : (built name).priority = (conf name).priority := by
    rw [builds]
    rfl
  apply Cluster.best_elected members _ _ contends _ someone all enough
  · simpa only [ranks] using distinct
  · exact ⟨fun name => Instance.run_of_reachable (reachable name), sound, started⟩
  · intro other standing
    rw [ranks, ranks]
    exact greatest other standing

namespace Sample

def politeConfig (name : Fin 3) : Config :=
  { config .v2 (trioPriority name) with preemptMode := name.val ≠ 0 }

def politeTrio (name : Fin 3) : VirtualRouter :=
  (configToVr parseNet (politeConfig name)).prepare (parent (10 * (name.val + 1)))
    (ipv4 (10 * (name.val + 1)))

/-- The worst one becomes Master, the others have just started. -/
def politeMoves : List (Fin 3 × Env × Input) :=
  let best : Fin 3 := ⟨0, by decide⟩
  let middle : Fin 3 := ⟨1, by decide⟩
  let worst : Fin 3 := ⟨2, by decide⟩
  [(best, env 10 0 [] [], .notify .startup), (middle, env 20 0 [] [], .notify .startup),
    (worst, env 30 0 [] [], .notify .startup), (worst, env 30 10 [] [], .tick)]

def politeStart : Cluster (Fin 3) :=
  (Soup.machine Instance.party).after (Cluster.start politeTrio) politeMoves

def politeHears (listener sender : Fin 3) : Fin 3 × Env × Input :=
  (listener, env (10 * (listener.val + 1)) 12 [] [], .vrrpV4 (politeTrio sender).ipv4Advert)

/-- The middle one pre-empts the worst one, and both are Master for a round. -/
def politeRounds : List (List (Fin 3 × Env × Input)) :=
  let best : Fin 3 := ⟨0, by decide⟩
  let middle : Fin 3 := ⟨1, by decide⟩
  let worst : Fin 3 := ⟨2, by decide⟩
  [[politeHears middle worst, politeHears best worst],
    [politeHears worst middle, politeHears best middle, politeHears middle worst,
      politeHears best worst],
    [politeHears worst middle, politeHears best middle]]

theorem polite_start_runs (name : Fin 3) :
    Instance.machine.Reachable (.new (politeTrio name)) (politeStart.locals name) :=
  ⟨Soup.own name politeMoves,
    (Soup.locals_after Instance.party (fun _ _ => rfl) (Cluster.start politeTrio) politeMoves
      name).symm⟩

end Sample

theorem polite_trio_elects_middle :
    (((Soup.machine Instance.party).after Sample.politeStart
      Sample.politeRounds.flatten).locals 1).vrouter.fsm.state = .master :=
  @rounds_elect_best Sample.parseNet [Sample.config .v2 200] rfl (Sample.config .v2 200)
    List.mem_cons_self (Fin 3) _ _ Sample.politeConfig (fun _ => rfl) (by decide) (by decide)
    (fun name => Sample.parent (10 * (name.val + 1)))
    (fun name => Sample.ipv4 (10 * (name.val + 1))) Sample.politeTrio rfl Sample.politeStart
    Sample.polite_start_runs (by decide +kernel) (by decide +kernel) 1 (by decide +kernel)
    (by decide +kernel) ⟨2, by decide +kernel⟩ Sample.politeRounds
    ⟨Cluster.round_of_deliveries (by decide +kernel) (by decide +kernel),
      Cluster.round_of_deliveries (by decide +kernel) (by decide +kernel),
      Cluster.round_of_deliveries (by decide +kernel) (by decide +kernel), trivial⟩
    (by decide) 1

end Failover
