import Failover.InstalledAddresses
import Failover.StateTimer

/-!
# What a shutdown releases

`Shutdown` looks at the election state and not at the addresses that are installed,
and does nothing when the lookup of the v4 mac-vlan fails. What it leaves on a mac-vlan
stays as long as any address there counts, also one that somebody else has put there.
-/

namespace Failover

open Library VirtualRouter

set_option autoImplicit false

namespace AddressBook

/-- No address on the mac-vlan of this name counts. -/
def Unused (book others : AddressBook) (name : String) : Prop :=
  ∀ place ∈ book ++ others, place.1 = name → place.2.isLinkLocal = true

instance (book others : AddressBook) (name : String) : Decidable (book.Unused others name) :=
  inferInstanceAs (Decidable (∀ place ∈ book ++ others, _ → _))

theorem apply_delete_mac_vlan (book others : AddressBook) (name : String) :
    book.apply others (.deleteMacVlan name) =
      if book.Unused others name then book.filter fun place => place.1 ≠ name else book := by
  have counted : ((book ++ others).any fun place =>
      place.1 = name ∧ place.2.isLinkLocal = false) = true ↔ ¬ book.Unused others name := by
    simp only [List.any_eq_true, decide_eq_true_eq, Unused, not_forall, Bool.not_eq_true,
      exists_prop]
  simp only [apply, counted, ite_not]

theorem Unused.mono {book smaller others : AddressBook} {name : String}
    (unused : book.Unused others name) (subset : ∀ place ∈ smaller, place ∈ book) :
    smaller.Unused others name := by
  intro place member
  apply unused
  rcases List.mem_append.mp member with own | other
  · exact List.mem_append_left others (subset place own)
  · exact List.mem_append_right book other

theorem mem_delete_mac_vlan_of_counts {book others : AddressBook} {place counter : String × IpNet}
    (member : place ∈ book) (beside : counter ∈ book ++ others) (same : counter.1 = place.1)
    (counts : counter.2.isLinkLocal = false) (name : String) :
    place ∈ book.apply others (.deleteMacVlan name) := by
  rw [apply_delete_mac_vlan]
  split_ifs with unused
  · apply List.mem_filter.mpr
    refine ⟨member, decide_eq_true ?_⟩
    rintro rfl
    simp [unused counter beside same] at counts
  · exact member

theorem mac_vlans_release_iff {vrouter : VirtualRouter} {book : AddressBook}
    (owned : vrouter.Owned book) (others : AddressBook) :
    (∀ place, place ∉ book.record others vrouter.deleteMacVlans) ↔
      ∀ place ∈ book, book.Unused others place.1 := by
  constructor
  · intro empty place member counter beside same
    by_contra counts
    rw [Bool.not_eq_true] at counts
    apply empty place
    have kept (kept : String × IpNet) (own : kept ∈ book) (here : counter.1 = kept.1) :=
      mem_delete_mac_vlan_of_counts own beside here counts vrouter.macVlanInterfaceV4
    unfold deleteMacVlans
    split
    · rename_i v6Iface _
      refine mem_delete_mac_vlan_of_counts (kept place member same) ?_ same counts v6Iface
      rcases List.mem_append.mp beside with own | other
      · exact List.mem_append_left others (kept counter own rfl)
      · exact List.mem_append_right _ other
    · exact kept place member same
  · intro unused place member
    have present := mem_record_delete_mac_vlans member
    obtain ⟨family, placed⟩ := owned place present
    have named := (mem_places.mp placed).1
    -- A deletion of its mac-vlan would have taken the address along.
    have gone {left : AddressBook} (subset : ∀ place ∈ left, place ∈ book) :
        place ∉ left.apply others (.deleteMacVlan place.1) := by
      rw [apply_delete_mac_vlan, if_pos ((unused place present).mono subset)]
      simp
    unfold deleteMacVlans at member
    cases family with
    | v4 =>
        have same : vrouter.macVlanInterfaceV4 = place.1 := Option.some.inj named
        rw [same] at member
        apply gone fun _ => id
        split at member
        · exact mem_apply_delete_mac_vlan member
        · exact member
    | v6 =>
        have v6Side : vrouter.macVlanInterfaceV6 = some place.1 := named
        rw [v6Side] at member
        exact gone (fun _ => mem_apply_delete_mac_vlan) member

end AddressBook

def VirtualRouter.stoppedFsm (vrouter : VirtualRouter) : VirtualRouterMachine :=
  if vrouter.fsm.state = .init then vrouter.fsm else vrouter.initFsm

theorem VirtualRouter.stopped_fsm_idle (vrouter : VirtualRouter) :
    vrouter.stoppedFsm.state = .init := by
  unfold stoppedFsm
  split
  · assumption
  · rfl

theorem VirtualRouter.stopped_fsm_matched {vrouter : VirtualRouter}
    (matched : vrouter.fsm.Matched) : vrouter.stoppedFsm.Matched := by
  unfold stoppedFsm
  split
  · exact matched
  · exact ⟨rfl, rfl⟩

namespace Instance

/-- The instance after a Shutdown, next to the addresses it leaves installed, when the
others are on the mac-vlans too. -/
def shutDown (env : Env) (others : AddressBook) (state : Instance × AddressBook) :
    Instance × AddressBook :=
  (amongOthers.step state (others, env, .notify .shutdown)).1

/-- Init without a timer, none of the instance's addresses installed, and nothing left
for another Shutdown to change in the router. -/
structure Released (state : Instance × AddressBook) : Prop where
  idle : state.1.vrouter.fsm.state = .init
  timer : state.1.vrouter.fsm.timer.tType = .null ∧
    state.1.vrouter.fsm.timer.waitingFor = none
  addresses : ∀ place, place ∉ state.2
  final : ∀ later others, (shutDown later others state).1.vrouter = state.1.vrouter

/-- Either there is nothing to release, or the Shutdown gets past the lock and the
lookup and then takes the addresses of a Master, or link-local ones with a mac-vlan on
which nothing counts. -/
def Releasable (env : Env) (others : AddressBook) (state : Instance × AddressBook) : Prop :=
  (state.1.vrouter.fsm.state = .init ∧ ∀ place, place ∉ state.2) ∨
    (state.1.poisoned = false ∧
      (∃ interface, env.getInterface state.1.vrouter.macVlanInterfaceV4 = .ok interface) ∧
      (state.1.vrouter.fsm.state = .master ∨ ∀ place ∈ state.2, state.2.Unused others place.1))

variable {env : Env} {inst : Instance} {book others : AddressBook}

theorem shut_down_of_step {next : Instance} {effects : List Effect}
    (stepped : inst.step env (.notify .shutdown) = (next, effects)) :
    shutDown env others (inst, book) = (next, book.record others effects) := by
  simp only [shutDown, amongOthers, stepped]

theorem shut_down_stuck (stuck : inst.poisoned = false →
    ∃ error, env.getInterface inst.vrouter.macVlanInterfaceV4 = .error error) :
    shutDown env others (inst, book) = (inst, book) := by
  have still : inst.step env (.notify .shutdown) = (inst, []) := by
    apply step_of_idle
    intro sound
    obtain ⟨error, missing⟩ := stuck sound
    simp only [VirtualRouter.handle, notifyMut, missing]
    exact Handled.failed_idle inst.vrouter error
  exact shut_down_of_step still

theorem shut_down_found (sound : inst.poisoned = false) {interface : NetworkInterface}
    (link : env.getInterface inst.vrouter.macVlanInterfaceV4 = .ok interface) :
    shutDown env others (inst, book) =
      ({ vrouter := inst.vrouter.withFsm inst.vrouter.stoppedFsm, poisoned := false },
        (if inst.vrouter.fsm.state = .master then
          book.record others inst.vrouter.deleteVirtualAddresses else book).record others
            inst.vrouter.deleteMacVlans) := by
  have stepped : inst.step env (.notify .shutdown) =
      ({ vrouter := inst.vrouter.withFsm inst.vrouter.stoppedFsm, poisoned := false },
        (if inst.vrouter.fsm.state = .master then
          inst.vrouter.sendAdvertisement ++ inst.vrouter.deleteVirtualAddresses else []) ++
            inst.vrouter.deleteMacVlans) := by
    simp only [step, sound, Bool.false_eq_true, if_false, VirtualRouter.handle, notifyMut, link,
      stoppedFsm]
    cases state : inst.vrouter.fsm.state <;> rfl
  rw [shut_down_of_step stepped, AddressBook.record_append]
  by_cases master : inst.vrouter.fsm.state = .master
  · rw [if_pos master, if_pos master, AddressBook.record_append,
      AddressBook.record_send_advertisement]
  · rw [if_neg master, if_neg master]
    rfl

theorem stuck_or_found (env : Env) (inst : Instance) :
    (inst.poisoned = false →
      ∃ error, env.getInterface inst.vrouter.macVlanInterfaceV4 = .error error) ∨
    (inst.poisoned = false ∧
      ∃ interface, env.getInterface inst.vrouter.macVlanInterfaceV4 = .ok interface) := by
  cases poisoned : inst.poisoned with
  | true => exact .inl fun sound => (Bool.noConfusion sound)
  | false =>
      cases link : env.getInterface inst.vrouter.macVlanInterfaceV4 with
      | error error => exact .inl fun _ => ⟨error, rfl⟩
      | ok interface => exact .inr ⟨rfl, interface, rfl⟩

theorem shut_down_idle (idle : inst.vrouter.fsm.state = .init) (env : Env)
    (others book : AddressBook) : (shutDown env others (inst, book)).1.vrouter = inst.vrouter := by
  rcases stuck_or_found env inst with stuck | ⟨sound, interface, link⟩
  · rw [shut_down_stuck stuck]
  · rw [shut_down_found sound link, stoppedFsm, if_pos idle]
    exact with_fsm_self inst.vrouter

theorem released_iff (matched : inst.vrouter.fsm.Matched) :
    Released (inst, book) ↔ inst.vrouter.fsm.state = .init ∧ ∀ place, place ∉ book := by
  constructor
  · exact fun released => ⟨released.idle, released.addresses⟩
  · intro ⟨idle, empty⟩
    constructor
    · exact idle
    · simpa only [VirtualRouterMachine.Matched, idle] using matched
    · exact empty
    · exact fun later others => shut_down_idle idle later others book

theorem master_deletes_all (owned : inst.vrouter.Owned book) (place : String × IpNet) :
    place ∉ book.record others inst.vrouter.deleteVirtualAddresses := by
  intro member
  obtain ⟨present, elsewhere⟩ := AddressBook.mem_record_delete.mp member
  obtain ⟨family, placed⟩ := owned place present
  exact elsewhere family placed

theorem shut_down_releases_iff (matched : inst.vrouter.fsm.Matched)
    (owned : inst.vrouter.Owned book) :
    Released (shutDown env others (inst, book)) ↔ Releasable env others (inst, book) := by
  rcases stuck_or_found env inst with stuck | ⟨sound, interface, link⟩
  · rw [shut_down_stuck stuck, released_iff matched, Releasable, iff_self_or]
    intro ⟨sound, ⟨interface, link⟩, _⟩
    obtain ⟨error, missing⟩ := stuck sound
    rw [missing] at link
    contradiction
  · have stopped : Released ({ vrouter := inst.vrouter.withFsm inst.vrouter.stoppedFsm
                               poisoned := false }, (shutDown env others (inst, book)).2) ↔
        ∀ place, place ∉ (shutDown env others (inst, book)).2 := by
      rw [released_iff (stopped_fsm_matched matched)]
      exact and_iff_right inst.vrouter.stopped_fsm_idle
    rw [shut_down_found sound link] at stopped ⊢
    rw [stopped]
    by_cases master : inst.vrouter.fsm.state = .master
    · rw [if_pos master]
      apply iff_of_true
      · intro place member
        exact master_deletes_all owned place (AddressBook.mem_record_delete_mac_vlans member)
      · exact .inr ⟨sound, ⟨interface, link⟩, .inl master⟩
    · rw [if_neg master, AddressBook.mac_vlans_release_iff owned]
      constructor
      · exact fun linkLocal => .inr ⟨sound, ⟨interface, link⟩, .inr linkLocal⟩
      · rintro (⟨_, empty⟩ | ⟨_, _, state⟩)
        · exact fun place member => absurd member (empty place)
        · exact state.resolve_left master

theorem releasing_invariant {built : VirtualRouter} (unstarted : built.fsm.Matched)
    (reachable : amongOthers.Reachable (new built, []) (inst, book)) :
    inst.vrouter.fsm.Matched ∧ inst.vrouter.Owned book := by
  have holds : inst.vrouter.fsm.Matched ∧ RunOf built inst ∧ built.Owned book := by
    apply amongOthers.reachable_invariant
      (fun state => state.1.vrouter.fsm.Matched ∧ RunOf built state.1 ∧ built.Owned state.2)
      _ _ reachable
    · intro state moment ⟨matched, runs, owned⟩
      exact ⟨matched_step matched moment.2.1 moment.2.2, run_of_step runs moment.2.1 moment.2.2,
        step_owned runs owned moment.1 moment.2.1 moment.2.2⟩
    · exact ⟨unstarted, run_of_new built, fun place member => absurd member List.not_mem_nil⟩
  obtain ⟨matched, runs, owned⟩ := holds
  obtain ⟨fsm, config⟩ := runs.config
  constructor
  · exact matched
  · rw [config]
    exact owned

variable {fromStr : String → Option IpNet}

/-- In every state of every run, whatever else is on the mac-vlans, a Shutdown releases
everything exactly when there is nothing to release, or it gets past the lock and the
lookup in state Master or with addresses only where nothing counts. -/
theorem shutdown_releases_iff (conf : Config) (parent : NetworkInterface) (primaryIp : Ipv4Addr)
    (reachable : amongOthers.Reachable
      (new ((configToVr fromStr conf).prepare parent primaryIp), []) (inst, book)) (env : Env)
    (others : AddressBook) :
    Released (shutDown env others (inst, book)) ↔ Releasable env others (inst, book) := by
  have unstarted : ((configToVr fromStr conf).prepare parent primaryIp).fsm.Matched :=
    ⟨rfl, rfl⟩
  obtain ⟨matched, owned⟩ := releasing_invariant unstarted reachable
  exact shut_down_releases_iff matched owned

/-- A Master takes both of its addresses back, and leaves the one it does not know. -/
theorem shut_down_master_releases :
    let others : AddressBook := [("fover6-51-9724", .v6 { addr := Sample.ipv6 77, prefixLen := 64 })]
    let master := amongOthers.after (new (Sample.router .v3 100 10), [])
      [(others, Sample.env 10 0 [] [], .notify .startup),
        (others, Sample.env 10 10 [] [], .tick)]
    master.2 ≠ [] ∧ Released (shutDown (Sample.env 10 11 [] []) others (master.1, master.2)) := by
  intro others master
  refine ⟨by decide +kernel, ?_⟩
  apply (@shutdown_releases_iff _ _ Sample.parseNet (Sample.config .v3 100) (Sample.parent 10)
    (Sample.ipv4 10) (amongOthers.reachable_after _ _) _ others).mpr
  have link : (Sample.env 10 11 [] []).getInterface master.1.vrouter.macVlanInterfaceV4 =
      .ok { name := macVlanName "eth0" 51 .v4, mac := some 0x00005e000133, ips := [] } := by
    decide +kernel
  exact .inr ⟨by decide +kernel, ⟨_, link⟩, .inl (by decide +kernel)⟩

/-- A dual-stack Master that stepped down on an IPv4 advertisement shuts down with its
IPv6 address installed. -/
theorem shut_down_strands_v6 :
    validateConfigs Sample.parseNet [Sample.config .v3 100] = .ok () ∧
      let backup := amongOthers.after (new (Sample.router .v3 100 10), [])
        [([], Sample.env 10 0 [] [], .notify .startup), ([], Sample.env 10 10 [] [], .tick),
          ([], Sample.env 10 11 [] [], .vrrpV4 (Sample.router .v3 150 20).ipv4Advert)]
      ¬ Released (shutDown (Sample.env 10 12 [] []) [] backup) := by
  constructor
  · rfl
  · intro backup released
    apply released.addresses ("fover6-51-9724", Sample.virtualIpv6)
    decide +kernel

/-- Along a run in which no packet moves the router while the other family has
addresses, only the lock and the lookup decide. -/
theorem shut_down_after_one_family {built : VirtualRouter} (prepared : built.Prepared)
    (unstarted : built.fsm = .default) {inputs : List (AddressBook × Env × Input)}
    (oneFamily : amongOthers.AllSteps
      (fun state moment => state.1.poisoned = false →
        state.1.vrouter.MovesOneFamily moment.2.1 moment.2.2) (new built, []) inputs)
    (env : Env) (others : AddressBook) :
    let last := amongOthers.after (new built, []) inputs
    Released (shutDown env others last) ↔
      last.1.vrouter.fsm.state = .init ∨
        (last.1.poisoned = false ∧
          ∃ interface, env.getInterface last.1.vrouter.macVlanInterfaceV4 = .ok interface) := by
  intro last
  have matched : built.fsm.Matched := by
    rw [unstarted]
    exact ⟨rfl, rfl⟩
  have idle : built.fsm.state ≠ .master := by
    rw [unstarted]
    decide
  have agrees : last.1.vrouter.AddressesAgree last.2 :=
    amongOthers.all_states_last ((agree_among_others_iff prepared idle inputs).mpr oneFamily)
  obtain ⟨matchedLast, owned⟩ :=
    releasing_invariant matched (amongOthers.reachable_after (new built, []) inputs)
  have empty (other : last.1.vrouter.fsm.state ≠ .master) : ∀ place, place ∉ last.2 :=
    (agree_idle_iff owned other).mp agrees
  have releases : Released (shutDown env others last) ↔ Releasable env others last :=
    shut_down_releases_iff matchedLast owned
  rw [releases]
  constructor
  · intro releasable
    apply releasable.imp
    · exact fun released => released.1
    · exact fun reached => ⟨reached.1, reached.2.1⟩
  · rintro (stopped | ⟨sound, found⟩)
    · exact .inl ⟨stopped, empty (by simp [stopped])⟩
    · by_cases master : last.1.vrouter.fsm.state = .master
      · exact .inr ⟨sound, found, .inl master⟩
      · exact .inr ⟨sound, found, .inr fun place member => absurd member (empty master place)⟩

end Instance

end Failover
