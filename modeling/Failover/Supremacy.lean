import Failover.Cluster

/-!
# The best router stays Master

The routers of a cluster share a medium that may lose, repeat, delay, reorder or
loop back what they send. A Master steps down for a priority that is not below its
own; the best router hears no such priority from another, and its source filter
drops what it sent itself.
-/

namespace Failover

open Library VirtualRouter

set_option autoImplicit false

variable {Name : Type*} {built : Name → VirtualRouter}

namespace Cluster

theorem heard_from_other {cluster : Cluster Name} (sound : Sound built cluster) {name : Name}
    {moment : Env × Input}
    (enabled : Soup.Enabled Instance.party
      (fun name moment => (built name).KnowsItself moment.1) cluster (name, moment))
    {receiver : VirtualRouter} {packet : VrrpPacket}
    (hears : receiver.heard moment.1 moment.2 = some packet) :
    ∃ sender, sender ≠ name ∧ packet.priority = (built sender).priority := by
  have sent := enabled.2 moment.2 (Input.message_of_vrrp (heard_vrrp hears))
  rcases sound.messages moment.2 sent with ⟨sender, advert⟩
  refine ⟨sender, ?_, heard_priority advert hears⟩
  intro same
  subst same
  have dropped := from_local_unheard (own_advert_from_local enabled.1 advert) receiver
  rw [dropped] at hears
  contradiction

variable [DecidableEq Name]

/-- One move of the cluster leaves the best router Master. -/
theorem best_step {best : Name}
    (distinct : Function.Injective fun name => (built name).priority)
    (greatest : ∀ name, (built name).priority ≤ (built best).priority) {cluster : Cluster Name}
    (sound : Sound built cluster)
    (master : (cluster.locals best).vrouter.fsm.state = .master)
    {move : Name × Env × Input}
    (enabled : Soup.Enabled Instance.party
      (fun name moment => (built name).KnowsItself moment.1) cluster move)
    (running : move.1 = best → move.2.2 ≠ .notify .shutdown) :
    (((Soup.machine Instance.party).step cluster move).1.locals best).vrouter.fsm.state =
      .master := by
  rcases move with ⟨name, env, input⟩
  by_cases same : name = best
  · subst same
    rw [Soup.step_locals_self]
    rcases step_simulates (cluster.locals name) env input with ⟨signal, means, stepped⟩
    have priority := (sound.parties name).priority
    have stays : (cluster.locals name).vrouter.candidate.next .master signal = .master := by
      rw [Candidate.master_stays_iff]
      cases means with
      | stop fires =>
          cases fires
          exact absurd rfl (running rfl)
      | hear hears =>
          rcases heard_from_other sound enabled hears with ⟨sender, different, heardPriority⟩
          refine ⟨by simp, ?_⟩
          intro heard sameSignal
          cases sameSignal
          right
          have lower : (built sender).priority < (built name).priority := by
            apply UInt8.lt_of_le_of_ne (greatest sender)
            exact fun tie => different (distinct tie)
          rw [heardPriority]
          simpa [candidate, priority] using UInt8.lt_iff_toNat_lt.mp lower
      | start => simp
      | expire => simp
      | quiet => simp
    rw [master] at stepped
    exact stepped.trans stays
  · rw [Soup.step_locals_other Instance.party cluster (Ne.symm same)]
    exact master

end Cluster

variable [DecidableEq Name]

/-- Once the router of the greatest priority is Master, it stays Master as long as
it is not shut down. -/
theorem best_stays_master {best : Name}
    (distinct : Function.Injective fun name => (built name).priority)
    (greatest : ∀ name, (built name).priority ≤ (built best).priority)
    {before later : List (Name × Env × Input)}
    (enabled : (Soup.machine Instance.party).AllSteps
      (Soup.Enabled Instance.party fun name moment => (built name).KnowsItself moment.1)
      (Cluster.start built) (before ++ later))
    (master : (((Soup.machine Instance.party).after (Cluster.start built) before).locals
      best).vrouter.fsm.state = .master)
    (running : ∀ move ∈ later, move.1 = best → move.2.2 ≠ .notify .shutdown) :
    (((Soup.machine Instance.party).after (Cluster.start built) (before ++ later)).locals
      best).vrouter.fsm.state = .master := by
  have split := ((Soup.machine Instance.party).all_steps_append _ before later).mp enabled
  have sound := Cluster.sound_after split.1
  have guarded := (Soup.machine Instance.party).all_steps_and_inputs split.2 running
  have kept := (Soup.machine Instance.party).guarded_invariant
    (fun cluster => Cluster.Sound built cluster ∧
      (cluster.locals best).vrouter.fsm.state = .master)
    (fun cluster move holds guard =>
      ⟨Cluster.sound_step _ cluster move holds.1 guard.1,
        Cluster.best_step distinct greatest holds.1 holds.2 guard.1 guard.2⟩)
    ⟨sound, master⟩ guarded
  rw [Machine.after_append]
  exact kept.2

namespace Sample

def pair : Bool → VirtualRouter
  | true => router .v2 200 10
  | false => router .v2 100 20

def pairStarts : List (Bool × Env × Input) :=
  [(true, env 10 0 [] [], .notify .startup), (true, env 10 10 [] [], .tick)]

/-- The other one does so too, and each gets both advertisements. -/
def pairGoesOn : List (Bool × Env × Input) :=
  [(false, env 20 0 [] [], .notify .startup), (false, env 20 10 [] [], .tick),
    (true, env 10 11 [] [], .vrrpV4 (pair false).ipv4Advert),
    (true, env 10 11 [] [], .vrrpV4 (pair true).ipv4Advert),
    (false, env 20 11 [] [], .vrrpV4 (pair true).ipv4Advert)]

end Sample

theorem better_of_pair_stays_master :
    (((Soup.machine Instance.party).after (Cluster.start Sample.pair)
      (Sample.pairStarts ++ Sample.pairGoesOn)).locals true).vrouter.fsm.state = .master :=
  best_stays_master (by unfold Function.Injective; decide +kernel) (by decide +kernel)
    (by decide +kernel) (by decide +kernel) (by decide +kernel)

end Failover
