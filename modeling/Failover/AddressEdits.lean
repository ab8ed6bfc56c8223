import Failover.Host

/-!
# What a step does to the addresses of a mac-vlan

An instance adds and removes the addresses of a family all at once, without
looking at what is there. `Installs` and `Withdraws` name the inputs that make it
do so.
-/

namespace Failover

open Library VirtualRouter

set_option autoImplicit false

variable {env : Env} {vrouter next : VirtualRouter} {input : Input} {effects : List Effect}
  {panicked : Bool} {family : AddressFamily} {iface : String} {net : IpNet}

theorem exists_heard_iff (env : Env) (vrouter : VirtualRouter) (input : Input)
    (holds : VrrpPacket → Prop) [DecidablePred holds] :
    (vrouter.heard env input).any (fun packet => holds packet) = true ↔
      ∃ packet, vrouter.heard env input = some packet ∧ holds packet := by
  simp [Option.any_eq_true]

namespace VirtualRouter

/-- The router takes its addresses of this family off its mac-vlan: it starts as
Backup, it is Master and told to shut down, or it is Master and yields to a packet
of the family. -/
def Withdraws (env : Env) (vrouter : VirtualRouter) (family : AddressFamily) (input : Input) :
    Prop :=
  (input = .notify .startup ∧ vrouter.fsm.state = .init ∧ vrouter.priority ≠ 255) ∨
    (input = .notify .shutdown ∧ vrouter.fsm.state = .master) ∨
    (vrouter.fsm.state = .master ∧ ∃ packet, vrouter.heard env input = some packet ∧
      packet.addresses.family = family ∧ packet.priority ≠ 0 ∧ vrouter.priority ≤ packet.priority)

/-- The router puts its addresses of this family on its mac-vlan: it starts as the
address owner, its Master is down, or it pre-empts the sender of a packet of the
family. -/
def Installs (env : Env) (vrouter : VirtualRouter) (family : AddressFamily) (input : Input) :
    Prop :=
  ((input = .notify .startup ∧ vrouter.fsm.state = .init ∧ vrouter.priority = 255) ∨
      (input = .notify .masterDown ∧ vrouter.fsm.state = .backup) ∨
      (input = .tick ∧ vrouter.expired env .masterDown ∧ vrouter.fsm.state = .backup)) ∧
    (∃ interface, env.getInterface vrouter.macVlanInterfaceV4 = .ok interface ∧
      interface.mac.isSome = true) ∨
    (vrouter.fsm.state = .backup ∧ ∃ packet, vrouter.heard env input = some packet ∧
      packet.addresses.family = family ∧ packet.priority ≠ 0 ∧ vrouter.preemptMode = true ∧
        packet.priority < vrouter.priority)

instance (env : Env) (vrouter : VirtualRouter) (family : AddressFamily) (input : Input) :
    Decidable (vrouter.Withdraws env family input) :=
  have : Decidable (∃ packet, vrouter.heard env input = some packet ∧
      packet.addresses.family = family ∧ packet.priority ≠ 0 ∧
        vrouter.priority ≤ packet.priority) :=
    decidable_of_iff _ (exists_heard_iff env vrouter input fun packet =>
      packet.addresses.family = family ∧ packet.priority ≠ 0 ∧
        vrouter.priority ≤ packet.priority)
  inferInstanceAs (Decidable (_ ∨ _ ∨ _ ∧ _))

theorem sent_edits_nothing {effect : Effect} (sent : effect.IsAdvertisement ∨ effect.IsNeighbor)
    (name : String) : ¬ effect.Strips name ∧ ∀ net, ¬ effect.Adds name net := by
  cases effect with
  | virtualAddressAction => exact sent.elim False.elim False.elim
  | _ => exact ⟨id, fun _ => id⟩

theorem deletion_edits_nothing {effect : Effect} (deletion : effect ∈ vrouter.deleteMacVlans)
    (name : String) : ¬ effect.Strips name ∧ ∀ net, ¬ effect.Adds name net := by
  rcases deletion_of_mem deletion with ⟨_, _, _, rfl⟩
  exact ⟨id, fun _ => id⟩

theorem strips_of_deleted {effect : Effect} (member : effect ∈ vrouter.deleteVirtualAddresses)
    (strips : effect.Strips iface) : ∃ family, vrouter.macVlan family = some iface := by
  rcases virtual_address_of_mem member with ⟨family, other, link, rfl⟩
  cases strips
  exact ⟨family, link⟩

theorem adds_of_added {effect : Effect} (member : effect ∈ vrouter.addVirtualAddresses)
    (adds : effect.Adds iface net) :
    ∃ family, vrouter.macVlan family = some iface ∧ net ∈ vrouter.nets family := by
  rcases virtual_address_of_mem member with ⟨family, other, link, rfl⟩
  rcases adds with ⟨rfl, listed⟩
  exact ⟨family, link, listed⟩

theorem deleted_adds_nothing {effect : Effect} (member : effect ∈ vrouter.deleteVirtualAddresses)
    (name : String) (net : IpNet) : ¬ effect.Adds name net := by
  rcases virtual_address_of_mem member with ⟨family, iface, _, rfl⟩
  exact id

theorem added_strips_nothing {effect : Effect} (member : effect ∈ vrouter.addVirtualAddresses)
    (name : String) : ¬ effect.Strips name := by
  rcases virtual_address_of_mem member with ⟨family, iface, _, rfl⟩
  exact id

theorem mem_virtual_addresses (action : AddressAction) (link : vrouter.macVlan family = some iface) :
    .virtualAddressAction action (vrouter.nets family) iface ∈ vrouter.virtualAddresses action := by
  cases family with
  | v4 =>
      cases link
      exact List.mem_cons_self
  | v6 =>
      simp only [macVlan] at link
      simp [virtualAddresses, link, nets]

theorem strips_of_transition (transition : Transition env vrouter input next effects panicked)
    {effect : Effect} (member : effect ∈ effects) (strips : effect.Strips iface) :
    ∃ family, vrouter.macVlan family = some iface ∧ vrouter.Withdraws env family input := by
  have unsent (sent : effect.IsAdvertisement ∨ effect.IsNeighbor) : False :=
    (sent_edits_nothing sent iface).1 strips
  have undeleted (deletion : effect ∈ vrouter.deleteMacVlans) : False :=
    (deletion_edits_nothing deletion iface).1 strips
  cases transition with
  | silent => contradiction
  | neighbor _ replies => exact (unsent (.inr (replies effect member))).elim
  | panics => exact (unsent (.inl (send_advertisement_effects effect member))).elim
  | takesOver =>
      rcases take_over_calls member with advert | announced | added
      · exact (unsent (.inl (send_advertisement_effects effect advert))).elim
      · exact (unsent (.inr announced)).elim
      · exact absurd strips (added_strips_nothing added _)
  | starts fires link state notOwner =>
      cases fires
      rcases strips_of_deleted member strips with ⟨family, own⟩
      exact ⟨family, own, .inl ⟨rfl, state, notOwner⟩⟩
  | stopsInit => exact (undeleted member).elim
  | stopsBackup => exact (undeleted member).elim
  | stopsMaster fires link state =>
      cases fires
      rcases shutdown_calls member with advert | deleted | deletion
      · exact (unsent (.inl (send_advertisement_effects effect advert))).elim
      · rcases strips_of_deleted deleted strips with ⟨family, own⟩
        exact ⟨family, own, .inr (.inl ⟨rfl, state⟩)⟩
      · exact (undeleted deletion).elim
  | advertises => exact (unsent (.inl (send_advertisement_effects effect member))).elim
  | hearsLeaving => contradiction
  | defers => contradiction
  | preempts =>
      cases List.mem_singleton.mp member
      exact strips.elim
  | answers => exact (unsent (.inl (send_advertisement_effects effect member))).elim
  | yields event hears link state positive superior =>
      cases List.mem_singleton.mp member
      cases strips
      exact ⟨_, link, .inr (.inr ⟨state, _, hears, rfl, positive, superior⟩)⟩

theorem adds_of_transition (transition : Transition env vrouter input next effects panicked)
    {effect : Effect} (member : effect ∈ effects) (adds : effect.Adds iface net) :
    ∃ family, vrouter.macVlan family = some iface ∧ net ∈ vrouter.nets family ∧
      vrouter.Installs env family input := by
  have unsent (sent : effect.IsAdvertisement ∨ effect.IsNeighbor) : False :=
    (sent_edits_nothing sent iface).2 net adds
  have undeleted (deletion : effect ∈ vrouter.deleteMacVlans) : False :=
    (deletion_edits_nothing deletion iface).2 net adds
  have unwithdrawn (deleted : effect ∈ vrouter.deleteVirtualAddresses) : False :=
    deleted_adds_nothing deleted _ _ adds
  cases transition with
  | silent => contradiction
  | neighbor _ replies => exact (unsent (.inr (replies effect member))).elim
  | panics => exact (unsent (.inl (send_advertisement_effects effect member))).elim
  | takesOver fires takesOver link found =>
      rcases take_over_calls member with advert | announced | added
      · exact (unsent (.inl (send_advertisement_effects effect advert))).elim
      · exact (unsent (.inr announced)).elim
      · rcases adds_of_added added adds with ⟨family, own, listed⟩
        refine ⟨family, own, listed, .inl ⟨?_, _, link, by rw [found]; rfl⟩⟩
        cases fires with
        | notify =>
            rcases takesOver with ⟨rfl, state, owner⟩ | ⟨rfl, state⟩
            · exact .inl ⟨rfl, state, owner⟩
            · exact .inr (.inl ⟨rfl, state⟩)
        | tick deadline =>
            rcases takesOver with ⟨other, _⟩ | ⟨_, state⟩
            · contradiction
            · exact .inr (.inr ⟨rfl, deadline, state⟩)
  | starts => exact (unwithdrawn member).elim
  | stopsInit => exact (undeleted member).elim
  | stopsBackup => exact (undeleted member).elim
  | stopsMaster =>
      rcases shutdown_calls member with advert | deleted | deletion
      · exact (unsent (.inl (send_advertisement_effects effect advert))).elim
      · exact (unwithdrawn deleted).elim
      · exact (undeleted deletion).elim
  | advertises => exact (unsent (.inl (send_advertisement_effects effect member))).elim
  | hearsLeaving => contradiction
  | defers => contradiction
  | preempts hears link state positive preempt lower =>
      cases List.mem_singleton.mp member
      rcases adds with ⟨rfl, listed⟩
      exact ⟨_, link, listed, .inr ⟨state, _, hears, rfl, positive, preempt, lower⟩⟩
  | answers => exact (unsent (.inl (send_advertisement_effects effect member))).elim
  | yields =>
      cases List.mem_singleton.mp member
      exact adds.elim

theorem withdraws_effects {interface : NetworkInterface}
    (found : env.getInterface vrouter.macVlanInterfaceV4 = .ok interface)
    (withdraws : vrouter.Withdraws env family input) (link : vrouter.macVlan family = some iface) :
    (vrouter.handle env input).effects = vrouter.deleteVirtualAddresses ∨
      (vrouter.handle env input).effects = vrouter.sendAdvertisement ++
        (vrouter.deleteVirtualAddresses ++ vrouter.deleteMacVlans) ∨
      (vrouter.handle env input).effects =
        [.virtualAddressAction .delete (vrouter.nets family) iface] := by
  rcases withdraws with ⟨rfl, state, notOwner⟩ | ⟨rfl, state⟩ | ⟨state, packet, hears, same,
    positive, superior⟩
  · left
    simp [handle, notifyMut, found, state, notOwner, Handled.done]
  · right
    left
    simp [handle, notifyMut, found, state, Handled.done]
  · right
    right
    have hearing := (transition_hearing (handle_transition env vrouter input) hears).1
    generalize (vrouter.handle env input).effects = calls at hearing ⊢
    generalize (vrouter.handle env input).vrouter = after at hearing
    cases hearing with
    | yields event own =>
        rw [same, link] at own
        cases own
        rw [same]
    | stopped init => simp [state] at init
    | outranked _ _ lower => exact absurd lower (UInt8.not_lt.mpr superior)
    | hearsLeaving backup => simp [state] at backup
    | defers backup => simp [state] at backup
    | preempts _ backup => simp [state] at backup
    | answers _ leaving => exact absurd leaving positive

theorem withdraws_removes {interface : NetworkInterface}
    (found : env.getInterface vrouter.macVlanInterfaceV4 = .ok interface)
    (withdraws : vrouter.Withdraws env family input)
    (link : vrouter.macVlan family = some iface) (configured : net ∈ vrouter.nets family) :
    (∃ effect ∈ (vrouter.handle env input).effects, effect.Removes iface net) ∧
      ∀ effect ∈ (vrouter.handle env input).effects, ¬ effect.Adds iface net := by
  have remover := mem_virtual_addresses .delete link
  have removes : (Effect.virtualAddressAction .delete (vrouter.nets family) iface).Removes iface
      net := ⟨rfl, configured⟩
  rcases withdraws_effects found withdraws link with both | leaving | single
  · rw [both]
    exact ⟨⟨_, remover, removes⟩, fun effect member => deleted_adds_nothing member _ _⟩
  · rw [leaving, ← List.append_assoc]
    constructor
    · exact ⟨_, List.mem_append_left _ (List.mem_append_right _ remover), removes⟩
    · intro effect member
      rcases shutdown_calls member with advert | deleted | deletion
      · exact (sent_edits_nothing (.inl (send_advertisement_effects effect advert)) iface).2 net
      · exact deleted_adds_nothing deleted _ _
      · exact (deletion_edits_nothing deletion iface).2 net
  · rw [single]
    constructor
    · exact ⟨_, List.mem_singleton_self _, removes⟩
    · intro effect member
      cases List.mem_singleton.mp member
      exact id

/-- After the advertisement of a Master that shuts down, the IPv4 addresses are deleted
in one call, and nothing later edits their mac-vlan. -/
theorem withdraws_once (prepared : vrouter.Prepared) {interface : NetworkInterface}
    (found : env.getInterface vrouter.macVlanInterfaceV4 = .ok interface)
    (withdraws : vrouter.Withdraws env .v4 input) :
    ∃ sent rest, (vrouter.handle env input).effects =
        sent ++ .virtualAddressAction .delete vrouter.strIpv4Addresses
          vrouter.macVlanInterfaceV4 :: rest ∧
      (∀ effect ∈ sent, effect.IsAdvertisement) ∧
        ∀ effect ∈ rest, ¬ effect.Strips vrouter.macVlanInterfaceV4 ∧
          ∀ net, ¬ effect.Adds vrouter.macVlanInterfaceV4 net := by
  obtain ⟨others, split, untouched⟩ : ∃ others, vrouter.deleteVirtualAddresses =
      .virtualAddressAction .delete vrouter.strIpv4Addresses vrouter.macVlanInterfaceV4 :: others ∧
        ∀ effect ∈ others, ¬ effect.Strips vrouter.macVlanInterfaceV4 ∧
          ∀ net, ¬ effect.Adds vrouter.macVlanInterfaceV4 net := by
    refine ⟨_, rfl, ?_⟩
    cases v6Link : vrouter.macVlanInterfaceV6 with
    | none => simp
    | some v6Iface =>
        intro effect member
        cases List.mem_singleton.mp member
        exact ⟨prepared.distinct v6Iface v6Link, fun _ => id⟩
  rcases withdraws_effects found withdraws rfl with both | leaving | single
  · exact ⟨[], others, by rw [both, split]; rfl, by simp, untouched⟩
  · refine ⟨vrouter.sendAdvertisement, others ++ vrouter.deleteMacVlans, ?_,
      fun effect => send_advertisement_effects effect, ?_⟩
    · rw [leaving, split]
      rfl
    · intro effect member
      rcases List.mem_append.mp member with other | deletion
      · exact untouched effect other
      · exact deletion_edits_nothing deletion _
  · exact ⟨[], [], single, by simp, by simp⟩

theorem installs_adds (installs : vrouter.Installs env family input)
    (link : vrouter.macVlan family = some iface) (configured : net ∈ vrouter.nets family) :
    (∃ effect ∈ (vrouter.handle env input).effects, effect.Adds iface net) ∧
      ∀ effect ∈ (vrouter.handle env input).effects, ¬ effect.Strips iface := by
  have adds : (Effect.virtualAddressAction .add (vrouter.nets family) iface).Adds iface net :=
    ⟨rfl, configured⟩
  rcases installs with ⟨event, interface, found, mac⟩ | ⟨state, packet, hears, same, positive,
    preempt, lower⟩
  · rcases Option.isSome_iff_exists.mp mac with ⟨mac, present⟩
    have becomes : vrouter.handle env input = vrouter.becomeMaster env interface := by
      rcases event with ⟨rfl, state, owner⟩ | ⟨rfl, state⟩ | ⟨rfl, expired, state⟩
      · simp only [handle, notifyMut, found, if_pos state, if_pos owner]
      · simp only [handle, notifyMut, found, if_pos state]
      · rw [fires_handles (.tick expired)]
        simp only [notifyMut, found, if_pos state]
    rw [becomes]
    simp only [becomeMaster, present, Handled.done]
    constructor
    · exact ⟨_, List.mem_append_right _ (mem_virtual_addresses .add link), adds⟩
    · intro effect member
      rcases take_over_calls member with advert | announced | added
      · exact (sent_edits_nothing (.inl (send_advertisement_effects effect advert)) iface).1
      · exact (sent_edits_nothing (.inr announced) iface).1
      · exact added_strips_nothing added iface
  · have hearing := (transition_hearing (handle_transition env vrouter input) hears).1
    generalize (vrouter.handle env input).effects = calls at hearing ⊢
    generalize (vrouter.handle env input).vrouter = after at hearing
    cases hearing with
    | preempts own =>
        rw [same, link] at own
        cases own
        rw [same]
        constructor
        · exact ⟨_, List.mem_singleton_self _, adds⟩
        · intro effect member strips
          cases List.mem_singleton.mp member
          exact strips
    | stopped init => simp [state] at init
    | outranked master => simp [state] at master
    | hearsLeaving _ leaving => exact absurd leaving positive
    | defers _ _ superior =>
        rcases superior with noPreempt | higher
        · simp [preempt] at noPreempt
        · exact absurd lower (UInt8.not_lt.mpr higher)
    | answers master => simp [state] at master
    | yields _ _ master => simp [state] at master

end VirtualRouter

end Failover
