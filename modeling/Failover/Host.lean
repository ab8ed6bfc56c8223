import Failover.InstalledAddresses
import Mathlib.Data.List.AList

/-!
# The links of a host

The link table that netlink shows and changes, for every instance on the host at
once. Names are unique, as the kernel keeps them, and each call of `general.rs`
acts on the link of one name. Netlink is reachable and its requests succeed. What
the Linux kernel does besides is said where it does it.
-/

namespace Failover

open Library VirtualRouter

set_option autoImplicit false

/-- The attributes of a `LinkMessage` that are read, and the addresses of the link. -/
structure Link where
  index : Nat
  isMacVlan : Bool
  mac : Option (List UInt8)
  parentIndex : Option Nat
  ips : List IpNet
  deriving DecidableEq

structure Host where
  links : AList fun _ : String => Link
  /-- The index of the next link. -/
  nextIndex : Nat
  /-- `promote_secondaries` of the interface of each name, which Linux leaves off. -/
  promotesSecondaries : String → Bool

/-- The length of the prefix and the network, for an IPv4 address. -/
def IpNet.subnet : IpNet → Option (Nat × Ipv4Addr)
  | .v4 net => some (net.prefixLen, net.addr >>> (32 - net.prefixLen.val))
  | .v6 _ => none

namespace Link

def interface (name : String) (link : Link) : NetworkInterface where
  name
  mac := link.mac.map fun bytes => BitVec.ofNat 48 (ofBytes bytes)
  ips := link.ips

/-- Of the IPv4 addresses of one subnet the first on the link is the primary one, and the
others are its secondary addresses. -/
def primary (link : Link) (net : IpNet) : Option IpNet :=
  net.subnet.bind fun subnet => link.ips.find? fun other => other.subnet = some subnet

def addAddress (link : Link) (address : IpNet) : Link :=
  if address ∈ link.ips then link else { link with ips := link.ips ++ [address] }

/-- The kernel deletes a primary address together with its secondary ones, unless it is
to promote one of them. -/
def deleteAddress (promotes : Bool) (link : Link) (address : IpNet) : Link :=
  { link with ips := link.ips.filter fun net =>
      net ≠ address ∧ (promotes = true ∨ link.primary net ≠ some address) }

def addressAction (promotes : Bool) (link : Link) : AddressAction → List IpNet → Link
  | .add, addresses => addresses.foldl addAddress link
  | .delete, addresses => addresses.foldl (deleteAddress promotes) link

/-- The address goes when these are deleted one after the other. -/
def Loses (promotes : Bool) (link : Link) (removed : List IpNet) (net : IpNet) : Prop :=
  net ∈ removed ∨ (promotes = false ∧ ∃ primary ∈ removed, link.primary net = some primary)

instance (promotes : Bool) (link : Link) (removed : List IpNet) (net : IpNet) :
    Decidable (link.Loses promotes removed net) :=
  inferInstanceAs (Decidable (_ ∨ _ ∧ ∃ primary ∈ removed, _))

theorem mem_add_addresses (link : Link) (addresses : List IpNet) (net : IpNet) :
    net ∈ (addresses.foldl addAddress link).ips ↔ net ∈ link.ips ∨ net ∈ addresses := by
  induction addresses generalizing link with
  | nil => simp
  | cons address rest ih =>
      have first : net ∈ (link.addAddress address).ips ↔ net ∈ link.ips ∨ net = address := by
        unfold addAddress
        split_ifs with present
        · constructor
          · exact Or.inl
          · rintro (old | rfl)
            · exact old
            · exact present
        · simp
      rw [List.foldl_cons, ih, first, List.mem_cons, or_assoc]

/-- What stays behind keeps its primary address. -/
theorem primary_delete_address {link : Link} {address net : IpNet}
    (other : link.primary net ≠ some address) :
    (link.deleteAddress false address).primary net = link.primary net := by
  unfold primary at other ⊢
  cases subnet : net.subnet with
  | none => rfl
  | some shared =>
      simp only [subnet, Option.bind_some] at other ⊢
      simp only [deleteAddress, List.find?_filter]
      cases found : link.ips.find? fun other => other.subnet = some shared with
      | none =>
          rw [List.find?_eq_none] at found ⊢
          intro candidate member
          simpa using fun _ _ => by simpa using found candidate member
      | some first =>
          rw [found] at other
          obtain ⟨same, before, after, split, none⟩ := List.find?_eq_some_iff_append.mp found
          have firstSubnet : first.subnet = some shared := by simpa using same
          have own : link.primary first = some first := by
            rw [primary, firstSubnet, Option.bind_some, found]
          rw [List.find?_eq_some_iff_append]
          refine ⟨?_, before, after, split, ?_⟩
          · have kept : first ≠ address := fun same => other (congrArg some same)
            simp [own, firstSubnet, kept]
          · intro candidate member
            have apart := none candidate member
            simp only [Bool.not_eq_true', decide_eq_false_iff_not] at apart
            simp [apart]

theorem loses_cons {promotes : Bool} {link : Link} {address net : IpNet} {rest : List IpNet} :
    link.Loses promotes (address :: rest) net ↔
      (net = address ∨ (promotes = false ∧ link.primary net = some address)) ∨
        link.Loses promotes rest net := by
  unfold Loses
  rw [List.mem_cons, List.exists_mem_cons_iff]
  tauto

theorem mem_delete_addresses (promotes : Bool) (link : Link) (removed : List IpNet)
    (net : IpNet) :
    net ∈ (removed.foldl (deleteAddress promotes) link).ips ↔
      net ∈ link.ips ∧ ¬ link.Loses promotes removed net := by
  induction removed generalizing link with
  | nil => simp [Loses]
  | cons address rest ih =>
      have first : net ∈ (link.deleteAddress promotes address).ips ↔ net ∈ link.ips ∧
          ¬ (net = address ∨ (promotes = false ∧ link.primary net = some address)) := by
        simp [deleteAddress, imp_iff_not_or]
      rw [List.foldl_cons, ih, first, loses_cons, and_assoc]
      apply and_congr_right
      intro _
      rw [not_or (p := net = address ∨ _)]
      apply and_congr_right
      intro stays
      cases promotes with
      | true => simp [Loses]
      | false =>
          have apart : link.primary net ≠ some address := fun same => stays (.inr ⟨rfl, same⟩)
          simp only [Loses, primary_delete_address apart]

/-- Nothing but its addresses has changed. -/
def Remains (later link : Link) : Prop := later = { link with ips := later.ips }

theorem Remains.trans {last middle first : Link} (later : last.Remains middle)
    (earlier : middle.Remains first) : last.Remains first := by
  rw [Remains, later, earlier]

theorem address_action_remains (promotes : Bool) (link : Link) (action : AddressAction)
    (addresses : List IpNet) : (link.addressAction promotes action addresses).Remains link := by
  cases action with
  | add =>
      induction addresses generalizing link with
      | nil => rfl
      | cons address rest ih =>
          apply (ih (link.addAddress address)).trans
          unfold addAddress
          split_ifs <;> rfl
  | delete =>
      induction addresses generalizing link with
      | nil => rfl
      | cons address rest ih => exact (ih (link.deleteAddress promotes address)).trans rfl

/-- The parent that the kernel records for a mac-vlan on this link. A mac-vlan on a
mac-vlan hangs off the link below. -/
def lower (link : Link) : Nat :=
  if link.isMacVlan = true then link.parentIndex.getD link.index else link.index

def remainingAddressCount (link : Link) : Nat :=
  link.ips.countP fun net => net.isLinkLocal = false

theorem remaining_address_count_zero (link : Link) :
    link.remainingAddressCount = 0 ↔ ∀ net ∈ link.ips, net.isLinkLocal = true := by
  simp [remainingAddressCount, List.countP_eq_zero]

/-- What an effect makes of the link of this name, `none` when it deletes it. -/
def after (promotes : Bool) (name : String) (link : Link) : Effect → Option Link
  | .virtualAddressAction action addresses iface =>
      some (if iface = name then link.addressAction promotes action addresses else link)
  | .deleteMacVlan deleted =>
      if deleted = name ∧ link.remainingAddressCount = 0 then none else some link
  | _ => some link

theorem after_remains {promotes : Bool} {name : String} {link later : Link} {effect : Effect}
    (survives : link.after promotes name effect = some later) : later.Remains link := by
  cases effect with
  | virtualAddressAction action addresses iface =>
      simp only [after, Option.some.injEq] at survives
      subst survives
      split_ifs
      · exact link.address_action_remains promotes action addresses
      · rfl
  | deleteMacVlan deleted =>
      simp only [after] at survives
      split_ifs at survives
      simp only [Option.some.injEq] at survives
      subst survives
      rfl
  | _ =>
      simp only [after, Option.some.injEq] at survives
      subst survives
      rfl

end Link

namespace Host

def link (host : Host) (name : String) : Option Link := host.links.lookup name

def env (host : Host) (now setAt : Instant) : Env where
  interfaces := host.links.entries.map fun entry => entry.2.interface entry.1
  now
  setAt

def setLink (host : Host) (name : String) (link : Link) : Host :=
  { host with links := host.links.insert name link }

def addLink (host : Host) (name : String) (link : Link) : Host :=
  { host with links := host.links.insert name link, nextIndex := host.nextIndex + 1 }

def applyAddressAction (host : Host) (action : AddressAction) (addresses : List IpNet)
    (interfaceName : String) : Host :=
  match host.link interfaceName with
  | some link =>
      host.setLink interfaceName
        (link.addressAction (host.promotesSecondaries interfaceName) action addresses)
  | none => host

/-- The kernel deletes no other link with this one. `settle` has those that are stacked
on it. -/
def applyDeleteMacVlan (host : Host) (name : String) : Host :=
  match host.link name with
  | none => host
  | some link =>
      if link.remainingAddressCount = 0 then { host with links := host.links.erase name }
      else host

/-- A lookup of a name that no link has ends in `ENODEV`. -/
def createMacVlan (host : Host) (parentIfname : String) (vrid : UInt8) (family : AddressFamily) :
    Except NetworkError (Host × String) :=
  let name := macVlanName parentIfname vrid family
  let virtualMac := family.virtualMac vrid
  match host.link parentIfname with
  | none => .error (.interfaceLookup parentIfname)
  | some parent =>
      match host.link name with
      | some link =>
          if link.isMacVlan = false then .error (.notMacVlan name)
          else if link.mac ≠ some virtualMac then
            .error (.macVlanMismatch name
              "its MAC address doesn't match this instance's virtual MAC")
          else if link.parentIndex ≠ some parent.index then
            .error (.macVlanMismatch name
              ("it belongs to a different parent interface than " ++ parentIfname))
          else .ok (host, name)
      | none =>
          .ok (host.addLink name
            { index := host.nextIndex
              isMacVlan := true
              mac := some virtualMac
              parentIndex := some parent.lower
              ips := [] }, name)

/-- What a call of a handler does to the links. Sending changes none. -/
def perform (host : Host) : Effect → Host
  | .virtualAddressAction action addresses iface => host.applyAddressAction action addresses iface
  | .deleteMacVlan name => host.applyDeleteMacVlan name
  | _ => host

def performAll (host : Host) (effects : List Effect) : Host :=
  effects.foldl perform host

/-- The kernel gives a link an automatic IPv6 address, link-local or not. -/
def autoconfigure (host : Host) (name : String) (net : Ipv6Net) : Host :=
  host.applyAddressAction .add [.v6 net] name

def Has (host : Host) (name : String) : Prop := (host.link name).isSome = true

instance (host : Host) (name : String) : Decidable (host.Has name) :=
  inferInstanceAs (Decidable (_ = true))

theorem find_interface (name : String) (entries : List (Σ _ : String, Link)) :
    (entries.map fun entry => entry.2.interface entry.1).find?
        (fun interface => interface.name = name) =
      (entries.dlookup name).map fun link => link.interface name := by
  induction entries with
  | nil => rfl
  | cons entry rest ih =>
      rcases entry with ⟨other, link⟩
      by_cases same : other = name
      · subst same
        simp [Link.interface]
      · rw [List.dlookup_cons_ne _ _ (Ne.symm same), ← ih]
        simp [Link.interface, same]

theorem get_interface_env (host : Host) (now setAt : Instant) (name : String) :
    (host.env now setAt).getInterface name =
      match host.link name with
      | some link => .ok (link.interface name)
      | none => .error (.interfaceNotFound name) := by
  have found := find_interface name host.links.entries
  simp only [Env.getInterface, env, found, link, AList.lookup]
  cases host.links.entries.dlookup name <;> rfl

theorem has_of_get_interface {host : Host} {now setAt : Instant} {name : String}
    {interface : NetworkInterface}
    (found : (host.env now setAt).getInterface name = .ok interface) : host.Has name := by
  rw [get_interface_env] at found
  unfold Has
  cases present : host.link name with
  | none => simp [present] at found
  | some link => rfl

theorem get_interface_of_has {host : Host} {name : String} (present : host.Has name)
    (now setAt : Instant) :
    ∃ interface, (host.env now setAt).getInterface name = .ok interface := by
  rcases Option.isSome_iff_exists.mp present with ⟨link, same⟩
  exact ⟨link.interface name, by rw [get_interface_env, same]⟩

@[simp] theorem link_set_link (host : Host) (name other : String) (link : Link) :
    (host.setLink name link).link other = if other = name then some link else host.link other := by
  unfold setLink Host.link
  by_cases same : other = name
  · subst same
    rw [if_pos rfl]
    exact AList.lookup_insert _
  · rw [if_neg same]
    exact AList.lookup_insert_ne same

/-- Every effect acts on each link by itself. -/
theorem link_perform (host : Host) (effect : Effect) (name : String) :
    (host.perform effect).link name =
      (host.link name).bind fun link => link.after (host.promotesSecondaries name) name effect := by
  cases effect with
  | virtualAddressAction action addresses iface =>
      simp only [perform, applyAddressAction, Link.after]
      by_cases same : iface = name
      · subst same
        cases present : host.link iface <;> simp [present]
      · cases host.link iface with
        | none => simp [same]
        | some link => simp [same, Ne.symm same]
  | deleteMacVlan deleted =>
      simp only [perform, applyDeleteMacVlan, Link.after]
      by_cases same : deleted = name
      · subst same
        cases present : host.link deleted with
        | none => simp [present]
        | some link =>
            by_cases empty : link.remainingAddressCount = 0
            · simp [empty, Host.link, AList.lookup_erase]
            · simp [empty, present]
      · have other : ({ host with links := host.links.erase deleted } : Host).link name =
            host.link name := AList.lookup_erase_ne (Ne.symm same)
        cases host.link deleted with
        | none => simp [same]
        | some link =>
            by_cases empty : link.remainingAddressCount = 0
            · simp [empty, same, other]
            · simp [empty, same]
  | sendVrrpPacketV4 => simp [perform, Link.after]
  | sendVrrpPacketV6 => simp [perform, Link.after]
  | sendPacketArp => simp [perform, Link.after]
  | sendNeighborAdvertisement => simp [perform, Link.after]

theorem remains_perform {host : Host} {effect : Effect} {name : String} {later : Link}
    (present : (host.perform effect).link name = some later) :
    ∃ link, host.link name = some link ∧ later.Remains link := by
  rw [link_perform] at present
  rcases Option.bind_eq_some_iff.mp present with ⟨link, before, survives⟩
  exact ⟨link, before, Link.after_remains survives⟩

theorem remains_perform_all {host : Host} {effects : List Effect} {name : String} {later : Link}
    (present : (host.performAll effects).link name = some later) :
    ∃ link, host.link name = some link ∧ later.Remains link := by
  induction effects generalizing host with
  | nil => exact ⟨later, present, rfl⟩
  | cons effect rest ih =>
      rcases ih present with ⟨middle, found, kept⟩
      rcases remains_perform found with ⟨link, before, remains⟩
      exact ⟨link, before, kept.trans remains⟩

theorem perform_fixed (host : Host) (effect : Effect) :
    (host.perform effect).promotesSecondaries = host.promotesSecondaries ∧
      (host.perform effect).nextIndex = host.nextIndex := by
  cases effect with
  | virtualAddressAction action addresses iface =>
      simp only [perform, applyAddressAction]
      cases host.link iface <;> exact ⟨rfl, rfl⟩
  | deleteMacVlan name =>
      simp only [perform, applyDeleteMacVlan]
      cases host.link name with
      | none => exact ⟨rfl, rfl⟩
      | some link =>
          simp only
          split_ifs <;> exact ⟨rfl, rfl⟩
  | _ => exact ⟨rfl, rfl⟩

theorem perform_all_fixed (host : Host) (effects : List Effect) :
    (host.performAll effects).promotesSecondaries = host.promotesSecondaries ∧
      (host.performAll effects).nextIndex = host.nextIndex := by
  induction effects generalizing host with
  | nil => exact ⟨rfl, rfl⟩
  | cons effect rest ih =>
      have first := host.perform_fixed effect
      have later := ih (host.perform effect)
      exact ⟨later.1.trans first.1, later.2.trans first.2⟩

theorem perform_all_append (host : Host) (first second : List Effect) :
    host.performAll (first ++ second) = (host.performAll first).performAll second :=
  List.foldl_append

@[simp] theorem perform_all_nil (host : Host) : host.performAll [] = host := rfl

@[simp] theorem perform_all_cons (host : Host) (effect : Effect) (rest : List Effect) :
    host.performAll (effect :: rest) = (host.perform effect).performAll rest := rfl

theorem perform_sent (host : Host) {effect : Effect}
    (sent : effect.IsAdvertisement ∨ effect.IsNeighbor) : host.perform effect = host := by
  cases effect with
  | virtualAddressAction => exact sent.elim False.elim False.elim
  | deleteMacVlan => exact sent.elim False.elim False.elim
  | _ => rfl

theorem perform_all_sent (host : Host) {effects : List Effect}
    (sent : ∀ effect ∈ effects, effect.IsAdvertisement ∨ effect.IsNeighbor) :
    host.performAll effects = host := by
  induction effects with
  | nil => rfl
  | cons effect rest ih =>
      rw [perform_all_cons, perform_sent host (sent effect List.mem_cons_self)]
      exact ih fun later member => sent later (List.mem_cons_of_mem effect member)

theorem has_perform_all {host : Host} {name : String} {effects : List Effect}
    (kept : .deleteMacVlan name ∉ effects) : (host.performAll effects).Has name ↔ host.Has name := by
  induction effects generalizing host with
  | nil => rfl
  | cons effect rest ih =>
      rw [List.mem_cons, not_or] at kept
      rw [perform_all_cons, ih kept.2]
      unfold Has
      rw [link_perform]
      cases host.link name with
      | none => rfl
      | some link =>
          cases effect with
          | deleteMacVlan deleted =>
              have other : ¬ (deleted = name ∧ link.remainingAddressCount = 0) := by
                rintro ⟨rfl, _⟩
                exact kept.1 rfl
              simp [Link.after, if_neg other]
          | _ => rfl

@[simp] theorem link_add_link (host : Host) (name other : String) (link : Link) :
    (host.addLink name link).link other = if other = name then some link else host.link other :=
  host.link_set_link name other link

theorem create_mac_vlan_cases {host next : Host} {parentIfname name : String} {vrid : UInt8}
    {family : AddressFamily}
    (created : host.createMacVlan parentIfname vrid family = .ok (next, name)) :
    name = macVlanName parentIfname vrid family ∧
      ((next = host ∧ host.Has name) ∨
        (host.link name = none ∧ ∃ parent link, host.link parentIfname = some parent ∧
          link.index = host.nextIndex ∧ link.parentIndex = some parent.lower ∧ link.ips = [] ∧
            next = host.addLink name link)) := by
  unfold createMacVlan at created
  cases parent : host.link parentIfname with
  | none => simp [parent] at created
  | some parentLink =>
      simp only [parent] at created
      cases existing : host.link (macVlanName parentIfname vrid family) with
      | none =>
          simp only [existing, Except.ok.injEq, Prod.mk.injEq] at created
          rcases created with ⟨rfl, rfl⟩
          exact ⟨rfl, .inr ⟨existing, parentLink, _, rfl, rfl, rfl, rfl, rfl⟩⟩
      | some link =>
          simp only [existing] at created
          split_ifs at created
          simp only [Except.ok.injEq, Prod.mk.injEq] at created
          rcases created with ⟨rfl, rfl⟩
          exact ⟨rfl, .inl ⟨rfl, by simp [Has, existing]⟩⟩

theorem create_mac_vlan_ok {host next : Host} {parentIfname name : String} {vrid : UInt8}
    {family : AddressFamily}
    (created : host.createMacVlan parentIfname vrid family = .ok (next, name)) :
    name = macVlanName parentIfname vrid family ∧ next.Has name ∧
      ∀ other link, host.link other = some link → next.link other = some link := by
  rcases create_mac_vlan_cases created with ⟨named, ⟨rfl, present⟩ | ⟨absent, _, added, _, _, _, _, rfl⟩⟩
  · exact ⟨named, present, fun _ _ found => found⟩
  · refine ⟨named, by simp [Has], ?_⟩
    intro other link found
    have different : other ≠ name := by
      intro same
      subst same
      rw [absent] at found
      contradiction
    rw [link_add_link, if_neg different, found]

theorem has_create_mac_vlan {host next : Host} {parentIfname name other : String} {vrid : UInt8}
    {family : AddressFamily}
    (created : host.createMacVlan parentIfname vrid family = .ok (next, name))
    (present : host.Has other) : next.Has other := by
  rcases Option.isSome_iff_exists.mp present with ⟨link, found⟩
  exact Option.isSome_iff_exists.mpr ⟨link, (create_mac_vlan_ok created).2.2 other link found⟩

theorem has_autoconfigure (host : Host) (name other : String) (net : Ipv6Net) :
    (host.autoconfigure name net).Has other ↔ host.Has other :=
  @has_perform_all host other [.virtualAddressAction .add [.v6 net] name] (by simp)

def Holds (host : Host) (name : String) (net : IpNet) : Prop :=
  ∃ link, host.link name = some link ∧ net ∈ link.ips

instance (host : Host) (name : String) (net : IpNet) : Decidable (host.Holds name net) :=
  decidable_of_iff ((host.link name).any (fun link => net ∈ link.ips) = true)
    (by simp [Holds, Option.any_eq_true])

theorem Holds.has {host : Host} {name : String} {net : IpNet} (holds : host.Holds name net) :
    host.Has name := by
  rcases holds with ⟨link, found, _⟩
  exact Option.isSome_iff_exists.mpr ⟨link, found⟩

/-- The address is lost to the link of this name when these are deleted from it. -/
def Loses (host : Host) (name : String) (removed : List IpNet) (net : IpNet) : Prop :=
  ∃ link, host.link name = some link ∧ link.Loses (host.promotesSecondaries name) removed net

instance (host : Host) (name : String) (removed : List IpNet) (net : IpNet) :
    Decidable (host.Loses name removed net) :=
  decidable_of_iff ((host.link name).any (fun link =>
      link.Loses (host.promotesSecondaries name) removed net) = true)
    (by simp [Loses, Option.any_eq_true])

theorem create_mac_vlan_holds {host next : Host} {parentIfname name : String} {vrid : UInt8}
    {family : AddressFamily}
    (created : host.createMacVlan parentIfname vrid family = .ok (next, name)) (other : String) :
    (next.Has other ↔ host.Has other ∨ other = name) ∧
      ∀ net, next.Holds other net ↔ host.Holds other net := by
  rcases create_mac_vlan_cases created with ⟨_, ⟨rfl, present⟩ | ⟨absent, _, added, _, _, _, blank, rfl⟩⟩
  · refine ⟨⟨Or.inl, ?_⟩, fun net => Iff.rfl⟩
    rintro (found | rfl)
    · exact found
    · exact present
  · by_cases same : other = name
    · subst same
      exact ⟨by simp [Has], fun net => by simp [Holds, absent, blank]⟩
    · simp [Has, Holds, same]

end Host

namespace Effect

def Removes (name : String) (net : IpNet) : Effect → Prop
  | virtualAddressAction .delete addresses iface => iface = name ∧ net ∈ addresses
  | _ => False

def Adds (name : String) (net : IpNet) : Effect → Prop
  | virtualAddressAction .add addresses iface => iface = name ∧ net ∈ addresses
  | _ => False

def Strips (name : String) : Effect → Prop
  | virtualAddressAction .delete _ iface => iface = name
  | _ => False

end Effect

namespace Host

/-- An address goes when addresses of its link are deleted, or with its mac-vlan, which
is not deleted while it holds an address that counts. -/
theorem holds_perform {host : Host} {name : String} {net : IpNet} {effect : Effect}
    (lasts : net.isLinkLocal = false ∨ effect ≠ .deleteMacVlan name) (holds : host.Holds name net)
    (kept : ¬ effect.Strips name) : (host.perform effect).Holds name net := by
  rcases holds with ⟨link, found, member⟩
  unfold Holds
  rw [link_perform, found, Option.bind_some]
  cases effect with
  | virtualAddressAction action addresses iface =>
      refine ⟨_, rfl, ?_⟩
      split_ifs with same
      · cases action with
        | add => exact (Link.mem_add_addresses link addresses net).mpr (.inl member)
        | delete => exact absurd same kept
      · exact member
  | deleteMacVlan deleted =>
      have used : ¬ (deleted = name ∧ link.remainingAddressCount = 0) := by
        rintro ⟨rfl, none⟩
        rcases lasts with counts | other
        · have linkLocal := link.remaining_address_count_zero.mp none net member
          rw [counts] at linkLocal
          contradiction
        · exact other rfl
      exact ⟨link, by simp [Link.after, used], member⟩
  | _ => exact ⟨link, rfl, member⟩

theorem holds_perform_all {host : Host} {name : String} {net : IpNet} {effects : List Effect}
    (lasts : net.isLinkLocal = false ∨ .deleteMacVlan name ∉ effects)
    (holds : host.Holds name net) (kept : ∀ effect ∈ effects, ¬ effect.Strips name) :
    (host.performAll effects).Holds name net := by
  induction effects generalizing host with
  | nil => exact holds
  | cons effect rest ih =>
      rw [List.mem_cons, not_or] at lasts
      apply ih (lasts.imp_right And.right)
      · apply holds_perform (lasts.imp_right fun others => Ne.symm others.1) holds
        exact kept effect List.mem_cons_self
      · exact fun later member => kept later (List.mem_cons_of_mem effect member)

theorem holds_perform_add {host : Host} {name : String} {net : IpNet} {effect : Effect}
    (present : host.Has name) (adds : effect.Adds name net) :
    (host.perform effect).Holds name net := by
  rcases Option.isSome_iff_exists.mp present with ⟨link, found⟩
  cases effect with
  | virtualAddressAction action addresses iface =>
      cases action with
      | add =>
          rcases adds with ⟨rfl, listed⟩
          unfold Holds
          rw [link_perform, found]
          refine ⟨_, rfl, ?_⟩
          rw [if_pos rfl]
          exact (Link.mem_add_addresses link addresses net).mpr (.inr listed)
      | delete => exact adds.elim
  | _ => exact adds.elim

theorem holds_perform_delete {host : Host} {name : String} {net : IpNet}
    (holds : host.Holds name net) (removed : List IpNet) :
    (host.perform (.virtualAddressAction .delete removed name)).Holds name net ↔
      ¬ host.Loses name removed net := by
  rcases holds with ⟨link, found, member⟩
  simp [Holds, Loses, link_perform, found, Link.after, Link.addressAction,
    Link.mem_delete_addresses, member]

theorem holds_perform_all_added {host : Host} {name : String} {net : IpNet}
    {effects : List Effect} (present : host.Has name) (kept : .deleteMacVlan name ∉ effects)
    (added : ∃ effect ∈ effects, effect.Adds name net)
    (unstripped : ∀ effect ∈ effects, ¬ effect.Strips name) :
    (host.performAll effects).Holds name net := by
  induction effects generalizing host with
  | nil => simp at added
  | cons effect rest ih =>
      have keptRest : .deleteMacVlan name ∉ rest := fun later =>
        kept (List.mem_cons_of_mem effect later)
      have unstrippedRest (later : Effect) (member : later ∈ rest) : ¬ later.Strips name :=
        unstripped later (List.mem_cons_of_mem effect member)
      rw [perform_all_cons]
      rcases added with ⟨adder, listed, adds⟩
      rcases List.mem_cons.mp listed with rfl | later
      · exact holds_perform_all (.inr keptRest) (holds_perform_add present adds) unstrippedRest
      · apply ih _ keptRest ⟨adder, later, adds⟩ unstrippedRest
        have single : .deleteMacVlan name ∉ [effect] := by
          rw [List.mem_singleton]
          intro same
          subst same
          exact kept List.mem_cons_self
        exact (has_perform_all single).mpr present

theorem not_holds_perform {host : Host} {name : String} {net : IpNet} {effect : Effect}
    (absent : ¬ host.Holds name net ∨ effect.Removes name net) (unadded : ¬ effect.Adds name net) :
    ¬ (host.perform effect).Holds name net := by
  rintro ⟨next, found, member⟩
  rw [link_perform] at found
  rcases Option.bind_eq_some_iff.mp found with ⟨link, before, survives⟩
  have old : net ∈ link.ips → effect.Removes name net := by
    intro present
    rcases absent with absent | removes
    · exact absurd ⟨link, before, present⟩ absent
    · exact removes
  cases effect with
  | virtualAddressAction action addresses iface =>
      simp only [Link.after, Option.some.injEq] at survives
      subst survives
      cases action with
      | add =>
          split_ifs at member with same
          · rcases (Link.mem_add_addresses link addresses net).mp member with present | listed
            · exact old present
            · exact unadded ⟨same, listed⟩
          · exact old member
      | delete =>
          split_ifs at member with same
          · have left := (Link.mem_delete_addresses _ link addresses net).mp member
            exact left.2 (.inl (old left.1).2)
          · exact same (old member).1
  | deleteMacVlan deleted =>
      simp only [Link.after] at survives
      split_ifs at survives
      simp only [Option.some.injEq] at survives
      subst survives
      exact old member
  | _ =>
      simp only [Link.after, Option.some.injEq] at survives
      subst survives
      exact old member

theorem not_holds_perform_all {host : Host} {name : String} {net : IpNet} {effects : List Effect}
    (absent : ¬ host.Holds name net ∨ ∃ effect ∈ effects, effect.Removes name net)
    (unadded : ∀ effect ∈ effects, ¬ effect.Adds name net) :
    ¬ (host.performAll effects).Holds name net := by
  induction effects generalizing host with
  | nil => simpa using absent
  | cons effect rest ih =>
      have first := unadded effect List.mem_cons_self
      apply ih
      · by_cases later : ∃ later ∈ rest, later.Removes name net
        · exact .inr later
        · refine .inl (not_holds_perform ?_ first)
          rcases absent with absent | ⟨remover, listed, removes⟩
          · exact .inl absent
          · rcases List.mem_cons.mp listed with rfl | tail
            · exact .inr removes
            · exact absurd ⟨remover, tail, removes⟩ later
      · exact fun later member => unadded later (List.mem_cons_of_mem effect member)

end Host

namespace Sample

def host : Host where
  links := AList.singleton "eth0"
    { index := 2
      isMacVlan := false
      mac := some [2, 0, 0, 0, 0, 10]
      parentIndex := none
      ips := (parent 10).ips }
  nextIndex := 3
  promotesSecondaries _ := false

end Sample

end Failover
