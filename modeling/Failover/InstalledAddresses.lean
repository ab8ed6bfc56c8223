import Failover.Cluster

/-!
# The virtual addresses on the mac-vlans

What the address actions of one instance leave installed, next to its election
state. Startup, `MasterDown` and `Shutdown` act on both families at once, a
packet only on its own.
-/

namespace Failover

open Library VirtualRouter

set_option autoImplicit false

/-- The addresses that the instance put on each interface. -/
abbrev AddressBook := List (String × IpNet)

def isUnicastLinkLocal (addr : Ipv6Addr) : Bool := addr >>> 118 = 0x3fa

/-- Whether `remaining_address_count` passes over the address. -/
def IpNet.isLinkLocal : IpNet → Bool
  | .v4 _ => false
  | .v6 net => isUnicastLinkLocal net.addr

namespace AddressBook

/-- Address actions succeed. A mac-vlan on which no address counts is deleted, and those
that are on it go with it. The others are what is there besides. -/
def apply (book others : AddressBook) : Effect → AddressBook
  | .virtualAddressAction .add addresses iface => book ∪ addresses.map fun net => (iface, net)
  | .virtualAddressAction .delete addresses iface =>
      book.filter fun place => ¬ (place.1 = iface ∧ place.2 ∈ addresses)
  | .deleteMacVlan name =>
      if (book ++ others).any fun place => place.1 = name ∧ place.2.isLinkLocal = false then book
      else book.filter fun place => place.1 ≠ name
  | _ => book

def record (book others : AddressBook) (effects : List Effect) : AddressBook :=
  effects.foldl (fun book => book.apply others) book

end AddressBook

namespace VirtualRouter

/-- The configured addresses of a family, each on the mac-vlan of the family. -/
def places (vrouter : VirtualRouter) (family : AddressFamily) : List (String × IpNet) :=
  match vrouter.macVlan family with
  | some iface => (vrouter.nets family).map fun net => (iface, net)
  | none => []

/-- The packet changes the election state of the router that hears it. -/
def Moves (vrouter : VirtualRouter) (packet : VrrpPacket) : Prop :=
  packet.priority ≠ 0 ∧
    ((vrouter.fsm.state = .backup ∧ vrouter.preemptMode = true ∧
        packet.priority < vrouter.priority) ∨
      (vrouter.fsm.state = .master ∧ vrouter.priority ≤ packet.priority))

instance (vrouter : VirtualRouter) (packet : VrrpPacket) : Decidable (vrouter.Moves packet) :=
  inferInstanceAs (Decidable (_ ∧ _))

/-- When the input brings a packet that moves the router, no address is configured
in the family that the packet does not belong to. -/
def MovesOneFamily (env : Env) (vrouter : VirtualRouter) (input : Input) : Prop :=
  ∀ packet, vrouter.heard env input = some packet → vrouter.Moves packet →
    ∀ family, family ≠ packet.addresses.family → vrouter.nets family = []

instance (env : Env) (vrouter : VirtualRouter) (input : Input) :
    Decidable (vrouter.MovesOneFamily env input) :=
  inferInstanceAs (Decidable (∀ packet ∈ vrouter.heard env input, _ → _))

/-- A Master has every configured address on the mac-vlan of its family, and a
router in another state has none of them on any interface. -/
def AddressesAgree (vrouter : VirtualRouter) (book : AddressBook) : Prop :=
  if vrouter.fsm.state = .master then
    ∀ family, ∀ net ∈ vrouter.nets family,
      ∃ iface, vrouter.macVlan family = some iface ∧ (iface, net) ∈ book
  else ∀ family, ∀ net ∈ vrouter.nets family, ∀ iface, (iface, net) ∉ book

/-- Only configured addresses are installed, each on its own mac-vlan. -/
def Owned (vrouter : VirtualRouter) (book : AddressBook) : Prop :=
  ∀ place ∈ book, ∃ family, place ∈ vrouter.places family

@[simp] theorem mem_places {vrouter : VirtualRouter} {family : AddressFamily}
    {place : String × IpNet} :
    place ∈ vrouter.places family ↔
      vrouter.macVlan family = some place.1 ∧ place.2 ∈ vrouter.nets family := by
  obtain ⟨iface, net⟩ := place
  unfold places
  cases link : vrouter.macVlan family with
  | none => simp
  | some other =>
      simp only [List.mem_map, Prod.mk.injEq, Option.some.injEq]
      constructor
      · rintro ⟨_, member, same, rfl⟩
        exact ⟨same, member⟩
      · rintro ⟨same, member⟩
        exact ⟨net, member, same, rfl⟩

theorem exists_family_iff {holds : AddressFamily → Prop} :
    (∃ family, holds family) ↔ holds .v4 ∨ holds .v6 := by
  constructor
  · rintro ⟨family, held⟩
    cases family
    · exact .inl held
    · exact .inr held
  · rintro (held | held)
    · exact ⟨_, held⟩
    · exact ⟨_, held⟩

theorem Prepared.places_disjoint {vrouter : VirtualRouter} (prepared : vrouter.Prepared)
    {left right : AddressFamily} {place : String × IpNet} (inLeft : place ∈ vrouter.places left)
    (inRight : place ∈ vrouter.places right) : left = right :=
  prepared.mac_vlan_injective (mem_places.mp inLeft).1 (mem_places.mp inRight).1

theorem agree_idle_iff {vrouter : VirtualRouter} {book : AddressBook}
    (owned : vrouter.Owned book) (idle : vrouter.fsm.state ≠ .master) :
    vrouter.AddressesAgree book ↔ ∀ place, place ∉ book := by
  simp only [AddressesAgree, if_neg idle]
  constructor
  · intro none place member
    obtain ⟨family, configured⟩ := owned place member
    exact none family place.2 (mem_places.mp configured).2 place.1 member
  · intro empty family net _ iface
    exact empty (iface, net)

theorem agree_master_iff {vrouter : VirtualRouter} {book : AddressBook}
    (prepared : vrouter.Prepared) (master : vrouter.fsm.state = .master) :
    vrouter.AddressesAgree book ↔
      ∀ family, ∀ place ∈ vrouter.places family, place ∈ book := by
  simp only [AddressesAgree, if_pos master]
  constructor
  · intro installed family place member
    obtain ⟨link, configured⟩ := mem_places.mp member
    obtain ⟨iface, same, present⟩ := installed family place.2 configured
    obtain rfl : place.1 = iface := Option.some.inj (link.symm.trans same)
    exact present
  · intro installed family net configured
    obtain ⟨iface, link⟩ := prepared.mac_vlan_of_net configured
    exact ⟨iface, link, installed family (iface, net) (mem_places.mpr ⟨link, configured⟩)⟩

end VirtualRouter

namespace AddressBook

@[simp] theorem record_singleton (book others : AddressBook) (effect : Effect) :
    book.record others [effect] = book.apply others effect := rfl

theorem record_append (book others : AddressBook) (first second : List Effect) :
    book.record others (first ++ second) = (book.record others first).record others second :=
  List.foldl_append

@[simp] theorem mem_apply_add {book others : AddressBook} {addresses : List IpNet} {iface : String}
    {place : String × IpNet} :
    place ∈ book.apply others (.virtualAddressAction .add addresses iface) ↔
      place ∈ book ∨ (place.1 = iface ∧ place.2 ∈ addresses) := by
  obtain ⟨name, net⟩ := place
  simp only [apply, List.mem_union_iff, List.mem_map, Prod.mk.injEq]
  constructor
  · rintro (old | ⟨_, member, rfl, rfl⟩)
    · exact .inl old
    · exact .inr ⟨rfl, member⟩
  · rintro (old | ⟨rfl, member⟩)
    · exact .inl old
    · exact .inr ⟨net, member, rfl, rfl⟩

@[simp] theorem mem_apply_delete {book others : AddressBook} {addresses : List IpNet} {iface : String}
    {place : String × IpNet} :
    place ∈ book.apply others (.virtualAddressAction .delete addresses iface) ↔
      place ∈ book ∧ ¬ (place.1 = iface ∧ place.2 ∈ addresses) := by
  simp only [apply, List.mem_filter, decide_eq_true_eq]

theorem mem_apply_delete_mac_vlan {book others : AddressBook} {name : String} {place : String × IpNet}
    (member : place ∈ book.apply others (.deleteMacVlan name)) : place ∈ book := by
  simp only [apply] at member
  split at member
  · exact member
  · exact List.mem_of_mem_filter member

theorem record_sent {effects : List Effect}
    (sent : ∀ effect ∈ effects, effect.IsAdvertisement ∨ effect.IsNeighbor)
    (book others : AddressBook) : book.record others effects = book := by
  induction effects generalizing book with
  | nil => rfl
  | cons effect rest ih =>
      have still : book.apply others effect = book := by
        rcases sent effect List.mem_cons_self with advertisement | neighbor
        · cases effect <;> first | rfl | exact advertisement.elim
        · cases effect <;> first | rfl | exact neighbor.elim
      rw [record, List.foldl_cons, still]
      exact ih (fun later member => sent later (List.mem_cons_of_mem _ member)) book

@[simp] theorem record_send_advertisement (book others : AddressBook) (vrouter : VirtualRouter) :
    book.record others vrouter.sendAdvertisement = book :=
  record_sent (fun effect member => .inl (send_advertisement_effects effect member)) book others

@[simp] theorem record_announce_ownership (book others : AddressBook) (env : Env)
    (vrouter : VirtualRouter) (mac : MacAddr) :
    book.record others (vrouter.announceOwnership env mac) = book :=
  record_sent
    (fun effect member => .inr (announce_ownership_neighbor env vrouter mac effect member)) book
    others

theorem mem_record_add {book others : AddressBook} {vrouter : VirtualRouter} {place : String × IpNet} :
    place ∈ book.record others vrouter.addVirtualAddresses ↔
      place ∈ book ∨ ∃ family, place ∈ vrouter.places family := by
  rw [exists_family_iff, mem_places, mem_places]
  cases link : vrouter.macVlanInterfaceV6 with
  | none =>
      simp [addVirtualAddresses, virtualAddresses, link, record, macVlan, nets, eq_comm]
  | some iface =>
      simp [addVirtualAddresses, virtualAddresses, link, record, macVlan, nets, eq_comm, or_assoc]

theorem mem_record_delete {book others : AddressBook} {vrouter : VirtualRouter}
    {place : String × IpNet} :
    place ∈ book.record others vrouter.deleteVirtualAddresses ↔
      place ∈ book ∧ ∀ family, place ∉ vrouter.places family := by
  rw [← not_exists, exists_family_iff, mem_places, mem_places, not_or]
  cases link : vrouter.macVlanInterfaceV6 with
  | none =>
      simp [deleteVirtualAddresses, virtualAddresses, link, record, macVlan, nets, eq_comm]
  | some iface =>
      simp [deleteVirtualAddresses, virtualAddresses, link, record, macVlan, nets, eq_comm,
        and_assoc]

theorem mem_record_delete_mac_vlans {book others : AddressBook} {vrouter : VirtualRouter}
    {place : String × IpNet} (member : place ∈ book.record others vrouter.deleteMacVlans) :
    place ∈ book := by
  unfold deleteMacVlans at member
  split at member
  · exact mem_apply_delete_mac_vlan (mem_apply_delete_mac_vlan member)
  · exact mem_apply_delete_mac_vlan member

end AddressBook

namespace VirtualRouter

variable {env : Env} {vrouter next : VirtualRouter} {input : Input} {effects : List Effect}
  {panicked : Bool} {book : AddressBook}

theorem moves_changes_state (transition : Transition env vrouter input next effects panicked)
    {packet : VrrpPacket} (hears : vrouter.heard env input = some packet)
    (moves : vrouter.Moves packet) : next.fsm.state ≠ vrouter.fsm.state := by
  have positive := positive_toNat.mpr moves.1
  rw [state_after_hearing transition hears]
  rcases moves.2 with ⟨state, preempt, lower⟩ | ⟨state, superior⟩
  · rw [UInt8.lt_iff_toNat_lt] at lower
    rw [state, Candidate.next, if_pos ⟨positive, preempt, lower⟩]
    decide
  · rw [UInt8.le_iff_toNat_le] at superior
    rw [state, Candidate.next, if_pos ⟨positive, superior⟩]
    decide

theorem transition_owned (others : AddressBook)
    (transition : Transition env vrouter input next effects panicked)
    (owned : vrouter.Owned book) : vrouter.Owned (book.record others effects) := by
  have shrinks {smaller : AddressBook} (subset : ∀ place ∈ smaller, place ∈ book) :
      vrouter.Owned smaller := fun place member => owned place (subset place member)
  cases transition with
  | neighbor _ replies =>
      rw [AddressBook.record_sent (fun effect member => .inr (replies effect member))]
      exact owned
  | panics =>
      rw [AddressBook.record_send_advertisement]
      exact owned
  | takesOver =>
      rw [AddressBook.record_append, AddressBook.record_append,
        AddressBook.record_send_advertisement, AddressBook.record_announce_ownership]
      intro place member
      rcases AddressBook.mem_record_add.mp member with old | new
      · exact owned place old
      · exact new
  | starts => exact shrinks fun place member => (AddressBook.mem_record_delete.mp member).1
  | stopsInit => exact shrinks fun place => AddressBook.mem_record_delete_mac_vlans
  | stopsBackup => exact shrinks fun place => AddressBook.mem_record_delete_mac_vlans
  | stopsMaster =>
      rw [AddressBook.record_append, AddressBook.record_append,
        AddressBook.record_send_advertisement]
      exact shrinks fun place member => (AddressBook.mem_record_delete.mp
        (AddressBook.mem_record_delete_mac_vlans member)).1
  | advertises =>
      rw [AddressBook.record_send_advertisement]
      exact owned
  | answers =>
      rw [AddressBook.record_send_advertisement]
      exact owned
  | preempts hears link state positive preempt lower =>
      rename_i packet iface
      rw [AddressBook.record_singleton]
      intro place member
      rcases AddressBook.mem_apply_add.mp member with old | ⟨rfl, configured⟩
      · exact owned place old
      · exact ⟨packet.addresses.family, mem_places.mpr ⟨link, configured⟩⟩
  | yields =>
      rw [AddressBook.record_singleton]
      exact shrinks fun place member => (AddressBook.mem_apply_delete.mp member).1
  | silent => exact owned
  | hearsLeaving => exact owned
  | defers => exact owned

theorem agree_same_state {fsm : VirtualRouterMachine} (same : fsm.state = vrouter.fsm.state) :
    (vrouter.withFsm fsm).AddressesAgree book ↔ vrouter.AddressesAgree book := by
  simp only [AddressesAgree, with_fsm_fsm, same]
  rfl

theorem Prepared.nets_eq_nil_iff (prepared : vrouter.Prepared) (family : AddressFamily) :
    vrouter.nets family = [] ↔ ∀ place, place ∉ vrouter.places family := by
  constructor
  · intro none place member
    rw [mem_places, none] at member
    exact List.not_mem_nil member.2
  · intro empty
    rw [List.eq_nil_iff_forall_not_mem]
    intro net configured
    obtain ⟨iface, link⟩ := prepared.mac_vlan_of_net configured
    exact empty (iface, net) (mem_places.mpr ⟨link, configured⟩)

theorem preempts_agree_iff (others : AddressBook) (prepared : vrouter.Prepared) {family : AddressFamily} {iface : String}
    (link : vrouter.macVlan family = some iface) (empty : ∀ place, place ∉ book) :
    (∀ other, ∀ place ∈ vrouter.places other,
        place ∈ book.apply others (.virtualAddressAction .add (vrouter.nets family) iface)) ↔
      ∀ other, other ≠ family → vrouter.nets other = [] := by
  have installed (place : String × IpNet) :
      place ∈ book.apply others (.virtualAddressAction .add (vrouter.nets family) iface) ↔
        place ∈ vrouter.places family := by
    rw [AddressBook.mem_apply_add, mem_places, link, Option.some.injEq, eq_comm (a := iface)]
    simp [empty]
  simp only [installed, prepared.nets_eq_nil_iff]
  constructor
  · intro all other different place member
    exact different (prepared.places_disjoint member (all other place member))
  · intro others other place member
    by_cases same : other = family
    · rwa [← same]
    · exact absurd member (others other same place)

theorem yields_agree_iff (others : AddressBook) (prepared : vrouter.Prepared) (owned : vrouter.Owned book)
    {family : AddressFamily} {iface : String} (link : vrouter.macVlan family = some iface)
    (full : ∀ other, ∀ place ∈ vrouter.places other, place ∈ book) :
    (∀ place, place ∉ book.apply others (.virtualAddressAction .delete (vrouter.nets family) iface)) ↔
      ∀ other, other ≠ family → vrouter.nets other = [] := by
  have left (place : String × IpNet) :
      place ∈ book.apply others (.virtualAddressAction .delete (vrouter.nets family) iface) ↔
        place ∈ book ∧ place ∉ vrouter.places family := by
    rw [AddressBook.mem_apply_delete, mem_places, link, Option.some.injEq, eq_comm (a := iface)]
  simp only [left, prepared.nets_eq_nil_iff]
  constructor
  · intro none other different place member
    apply none place
    constructor
    · exact full other place member
    · intro same
      exact different (prepared.places_disjoint member same)
  · rintro others place ⟨present, elsewhere⟩
    obtain ⟨other, member⟩ := owned place present
    by_cases same : other = family
    · exact elsewhere (same ▸ member)
    · exact others other same place member

theorem moves_one_family_of_same_state
    (transition : Transition env vrouter input next effects panicked)
    (same : next.fsm.state = vrouter.fsm.state) : vrouter.MovesOneFamily env input :=
  fun _ hears moves => absurd same (moves_changes_state transition hears moves)

theorem moves_one_family_of_fires {event : Event} (fires : Fires env vrouter input event) :
    vrouter.MovesOneFamily env input := by
  intro packet hears
  rw [fires_unheard fires] at hears
  contradiction

theorem moves_one_family_iff {packet : VrrpPacket} (hears : vrouter.heard env input = some packet)
    (moves : vrouter.Moves packet) :
    vrouter.MovesOneFamily env input ↔
      ∀ family, family ≠ packet.addresses.family → vrouter.nets family = [] := by
  constructor
  · exact fun guarded => guarded packet hears moves
  · intro others heardPacket same _
    obtain rfl := Option.some.inj (hears.symm.trans same)
    exact others

theorem agree_of_deleted (owned : vrouter.Owned book) {fsm : VirtualRouterMachine}
    (idle : fsm.state ≠ .master) {after : AddressBook} (subset : ∀ place ∈ after, place ∈ book)
    (none : ∀ family, ∀ place ∈ vrouter.places family, place ∉ after) :
    (vrouter.withFsm fsm).AddressesAgree after := by
  have afterOwned : (vrouter.withFsm fsm).Owned after :=
    fun place member => owned place (subset place member)
  apply (agree_idle_iff afterOwned idle).mpr
  intro place member
  obtain ⟨family, configured⟩ := owned place (subset place member)
  exact none family place configured member

theorem agree_of_mac_vlans_deleted (others : AddressBook) (owned : vrouter.Owned book) (agrees : vrouter.AddressesAgree book)
    (state : vrouter.fsm.state ≠ .master) {fsm : VirtualRouterMachine} (idle : fsm.state ≠ .master) :
    (vrouter.withFsm fsm).AddressesAgree (book.record others vrouter.deleteMacVlans) := by
  have empty := (agree_idle_iff owned state).mp agrees
  apply agree_of_deleted owned idle
  · exact fun place => AddressBook.mem_record_delete_mac_vlans
  · intro family place _ member
    exact empty place (AddressBook.mem_record_delete_mac_vlans member)

/-- From a state in which addresses and election agree, they agree after the step
unless a packet moved the router while the other family has addresses. -/
theorem transition_agree_iff (others : AddressBook) (prepared : vrouter.Prepared) (owned : vrouter.Owned book)
    (agrees : vrouter.AddressesAgree book)
    (transition : Transition env vrouter input next effects panicked) :
    next.AddressesAgree (book.record others effects) ↔ vrouter.MovesOneFamily env input := by
  have unmoved (same : next.fsm.state = vrouter.fsm.state)
      (agreesNext : next.AddressesAgree (book.record others effects)) :
      next.AddressesAgree (book.record others effects) ↔ vrouter.MovesOneFamily env input :=
    iff_of_true agreesNext (moves_one_family_of_same_state transition same)
  cases transition with
  | silent => exact unmoved rfl agrees
  | neighbor _ replies =>
      apply unmoved rfl
      rw [AddressBook.record_sent (fun effect member => .inr (replies effect member))]
      exact agrees
  | panics =>
      apply unmoved rfl
      rw [AddressBook.record_send_advertisement]
      exact agrees
  | takesOver fires =>
      apply iff_of_true
      · apply (agree_master_iff (prepared.with_fsm _) rfl).mpr
        intro family place member
        rw [AddressBook.record_append, AddressBook.record_append]
        exact AddressBook.mem_record_add.mpr (.inr ⟨family, member⟩)
      · exact moves_one_family_of_fires fires
  | starts fires =>
      apply iff_of_true
      · apply agree_of_deleted owned (by simp [backupFsm])
        · exact fun place member => (AddressBook.mem_record_delete.mp member).1
        · intro family place configured member
          exact (AddressBook.mem_record_delete.mp member).2 family configured
      · exact moves_one_family_of_fires fires
  | stopsInit fires link state =>
      apply unmoved rfl
      rw [← with_fsm_self vrouter]
      exact agree_of_mac_vlans_deleted others owned agrees (by simp [state]) (by simp [state])
  | stopsBackup fires link state =>
      apply iff_of_true
      · exact agree_of_mac_vlans_deleted others owned agrees (by simp [state]) (by simp [initFsm])
      · exact moves_one_family_of_fires fires
  | stopsMaster fires =>
      have remaining : ∀ place ∈ book.record others (vrouter.sendAdvertisement ++
          vrouter.deleteVirtualAddresses ++ vrouter.deleteMacVlans),
          place ∈ book ∧ ∀ family, place ∉ vrouter.places family := by
        intro place member
        rw [AddressBook.record_append, AddressBook.record_append,
          AddressBook.record_send_advertisement] at member
        exact AddressBook.mem_record_delete.mp (AddressBook.mem_record_delete_mac_vlans member)
      apply iff_of_true
      · apply agree_of_deleted owned (by simp [initFsm])
        · exact fun place member => (remaining place member).1
        · exact fun family place configured member =>
            (remaining place member).2 family configured
      · exact moves_one_family_of_fires fires
  | advertises =>
      apply unmoved rfl
      rw [AddressBook.record_send_advertisement]
      exact (agree_same_state rfl).mpr agrees
  | answers =>
      apply unmoved rfl
      rw [AddressBook.record_send_advertisement]
      exact (agree_same_state rfl).mpr agrees
  | hearsLeaving => exact unmoved rfl ((agree_same_state rfl).mpr agrees)
  | defers => exact unmoved rfl ((agree_same_state rfl).mpr agrees)
  | preempts hears link state positive preempt lower =>
      have empty := (agree_idle_iff owned (by simp [state])).mp agrees
      have guard := moves_one_family_iff hears ⟨positive, .inl ⟨state, preempt, lower⟩⟩
      rw [guard, ← preempts_agree_iff others prepared link empty]
      exact agree_master_iff (prepared.with_fsm _) rfl
  | yields event hears link state positive superior =>
      have full := (agree_master_iff prepared state).mp agrees
      have guard := moves_one_family_iff hears ⟨positive, .inr ⟨state, superior⟩⟩
      have ownedNext := transition_owned others
        (.yields event hears link state positive superior) owned
      rw [guard, ← yields_agree_iff others prepared owned link full]
      exact agree_idle_iff ownedNext (by simp [backupFsm])

end VirtualRouter

namespace Instance

variable {built : VirtualRouter} {inst : Instance} {book : AddressBook}

theorem step_owned (runs : RunOf built inst) (owned : built.Owned book) (others : AddressBook)
    (env : Env) (input : Input) : built.Owned (book.record others (inst.step env input).2) := by
  cases poisoned : inst.poisoned with
  | true =>
      rw [step_poisoned poisoned]
      exact owned
  | false =>
      obtain ⟨fsm, config⟩ := runs.config
      have ownedNow : inst.vrouter.Owned book := by
        rw [config]
        exact owned
      have ownedNext : inst.vrouter.Owned (book.record others (inst.step env input).2) :=
        transition_owned others (step_transition poisoned env input) ownedNow
      rw [config] at ownedNext
      exact ownedNext

theorem step_agree_iff (prepared : built.Prepared) (runs : RunOf built inst)
    (owned : built.Owned book) (agrees : inst.vrouter.AddressesAgree book) (others : AddressBook)
    (env : Env) (input : Input) :
    (inst.step env input).1.vrouter.AddressesAgree
        (book.record others (inst.step env input).2) ↔
      (inst.poisoned = false → inst.vrouter.MovesOneFamily env input) := by
  obtain ⟨fsm, config⟩ := runs.config
  cases poisoned : inst.poisoned with
  | true =>
      rw [step_poisoned poisoned]
      exact iff_of_true agrees (by simp)
  | false =>
      have ownedNow : inst.vrouter.Owned book := by
        rw [config]
        exact owned
      have preparedNow : inst.vrouter.Prepared := by
        rw [config]
        exact prepared.with_fsm fsm
      simp only [forall_const]
      exact transition_agree_iff others preparedNow ownedNow agrees (step_transition poisoned env input)

/-- An instance next to the addresses that its actions leave installed, on mac-vlans
that nobody else edits. -/
def withAddresses : Machine (Instance × AddressBook) (Env × Input) Effect :=
  machine.withMemory fun book => book.apply []

/-- An instance next to the addresses that its actions leave installed, where each input
comes with what else is on the mac-vlans at the time. -/
def amongOthers : Machine (Instance × AddressBook) (AddressBook × Env × Input) Effect where
  step state moment :=
    (((state.1.step moment.2.1 moment.2.2).1,
      state.2.record moment.1 (state.1.step moment.2.1 moment.2.2).2),
      (state.1.step moment.2.1 moment.2.2).2)

end Instance

theorem new_owned (built : VirtualRouter) :
    Instance.RunOf built (Instance.new built) ∧ built.Owned [] :=
  ⟨Instance.run_of_new built, fun _ member => absurd member List.not_mem_nil⟩

theorem agree_along_run_iff {built : VirtualRouter} (prepared : built.Prepared)
    (idle : built.fsm.state ≠ .master) (inputs : List (Env × Input)) :
    Instance.withAddresses.AllStates (fun state => state.1.vrouter.AddressesAgree state.2)
        (Instance.new built, []) inputs ↔
      Instance.withAddresses.AllSteps
        (fun state moment => state.1.poisoned = false →
          state.1.vrouter.MovesOneFamily moment.1 moment.2) (Instance.new built, []) inputs := by
  apply Instance.withAddresses.all_states_iff_all_steps
    (fun state moment (holds : Instance.RunOf built state.1 ∧ built.Owned state.2) =>
      ⟨Instance.run_of_step holds.1 moment.1 moment.2,
        Instance.step_owned holds.1 holds.2 [] moment.1 moment.2⟩)
    (fun state moment holds agrees =>
      Instance.step_agree_iff prepared holds.1 holds.2 agrees [] moment.1 moment.2)
  · exact new_owned built
  · exact (agree_idle_iff (new_owned built).2 idle).mpr fun place => List.not_mem_nil

/-- What else is on the mac-vlans makes no difference to that. -/
theorem agree_among_others_iff {built : VirtualRouter} (prepared : built.Prepared)
    (idle : built.fsm.state ≠ .master) (inputs : List (AddressBook × Env × Input)) :
    Instance.amongOthers.AllStates (fun state => state.1.vrouter.AddressesAgree state.2)
        (Instance.new built, []) inputs ↔
      Instance.amongOthers.AllSteps
        (fun state moment => state.1.poisoned = false →
          state.1.vrouter.MovesOneFamily moment.2.1 moment.2.2) (Instance.new built, []) inputs := by
  apply Instance.amongOthers.all_states_iff_all_steps
    (fun state moment (holds : Instance.RunOf built state.1 ∧ built.Owned state.2) =>
      ⟨Instance.run_of_step holds.1 moment.2.1 moment.2.2,
        Instance.step_owned holds.1 holds.2 moment.1 moment.2.1 moment.2.2⟩)
    (fun state moment holds agrees =>
      Instance.step_agree_iff prepared holds.1 holds.2 agrees moment.1 moment.2.1 moment.2.2)
  · exact new_owned built
  · exact (agree_idle_iff (new_owned built).2 idle).mpr fun place => List.not_mem_nil

variable {fromStr : String → Option IpNet}

/-- Addresses and election agree in every state of a run exactly when no packet
moves the router while addresses of the other family are configured. -/
theorem addresses_agree_iff {configs : List Config}
    (accepted : validateConfigs fromStr configs = .ok ()) {conf : Config}
    (member : conf ∈ configs) (parent : NetworkInterface) (primaryIp : Ipv4Addr)
    (inputs : List (Env × Input)) :
    let start := Instance.new ((configToVr fromStr conf).prepare parent primaryIp)
    Instance.withAddresses.AllStates (fun state => state.1.vrouter.AddressesAgree state.2)
        (start, []) inputs ↔
      Instance.withAddresses.AllSteps
        (fun state moment => state.1.poisoned = false →
          state.1.vrouter.MovesOneFamily moment.1 moment.2) (start, []) inputs := by
  intro start
  have prepared := prepared_of_valid accepted member parent primaryIp
  exact agree_along_run_iff prepared (by simp [prepare, configToVr, VirtualRouter.new,
    VirtualRouterMachine.default]) inputs

/-- A version 2 router pre-empts, steps down, takes over and is shut down. -/
theorem v2_addresses_agree :
    let start := (Instance.new (Sample.router .v2 100 10), [])
    let moments := [(Sample.env 10 0 [] [], Input.notify .startup),
      (Sample.env 10 1 [] [], .vrrpV4 (Sample.router .v2 50 20).ipv4Advert),
      (Sample.env 10 2 [] [], .vrrpV4 (Sample.router .v2 150 20).ipv4Advert),
      (Sample.env 10 12 [] [], .tick), (Sample.env 10 13 [] [], .notify .shutdown)]
    (Instance.withAddresses.after start (moments.take 2)).2 =
        [("fover4-51-9724", Sample.virtualIpv4)] ∧
      Instance.withAddresses.AllStates (fun state => state.1.vrouter.AddressesAgree state.2)
        start moments := by
  intro start moments
  refine ⟨by decide +kernel, ?_⟩
  exact (@addresses_agree_iff Sample.parseNet [Sample.config .v2 100] rfl (Sample.config .v2 100)
    List.mem_cons_self (Sample.parent 10) (Sample.ipv4 10) moments).mpr (by decide +kernel)

/-- A dual-stack Backup that pre-empts on an IPv4 advertisement is Master without
its IPv6 address. -/
theorem preempting_leaves_v6_uninstalled :
    validateConfigs Sample.parseNet [Sample.config .v3 100] = .ok () ∧
      ¬ Instance.withAddresses.AllStates
        (fun state => state.1.vrouter.AddressesAgree state.2)
        (Instance.new (Sample.router .v3 100 10), [])
        [(Sample.env 10 0 [] [], .notify .startup),
          (Sample.env 10 1 [] [], .vrrpV4 (Sample.router .v3 50 20).ipv4Advert)] := by
  constructor
  · rfl
  intro always
  let last := Instance.withAddresses.after (Instance.new (Sample.router .v3 100 10), [])
    [(Sample.env 10 0 [] [], .notify .startup),
      (Sample.env 10 1 [] [], .vrrpV4 (Sample.router .v3 50 20).ipv4Advert)]
  have master : last.1.vrouter.fsm.state = .master := by decide +kernel
  have installed : last.2 = [("fover4-51-9724", Sample.virtualIpv4)] := by
    decide +kernel
  have reached := Instance.withAddresses.all_states_last always
  have agrees : last.1.vrouter.AddressesAgree last.2 := reached
  rw [AddressesAgree, if_pos master] at agrees
  rcases agrees .v6 Sample.virtualIpv6 (by decide +kernel) with ⟨iface, _, present⟩
  rw [installed, List.mem_singleton, Prod.mk.injEq] at present
  exact absurd present.2 (by decide)

end Failover
