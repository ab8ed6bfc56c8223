import Failover.Netlink
import Mathlib.Data.Finset.Dedup
import Mathlib.Data.Finset.Lattice.Fold
import Mathlib.Order.Lattice.Nat

/-!
# Mac-vlans shared by name

The link table of a host under any sequence of mac-vlan calls. A name carries
16 bits of a hash, so two parents can come to claim one name; the checks before
reuse keep their instances apart.
-/

namespace Failover

open Library VirtualRouter

set_option autoImplicit false

/-- The links of a host, and the index of every link there has been. -/
structure LinkTable where
  host : Host
  used : Finset Nat
  known : ∀ name link, host.link name = some link → link.index ∈ used
  unique : ∀ name other link otherLink, host.link name = some link →
    host.link other = some otherLink → link.index = otherLink.index → name = other

inductive LinkCall where
  | create (parentIfname : String) (vrid : UInt8) (family : AddressFamily)
      (requests : CreateRequests)
  | delete (name : String) (requests : DeleteRequests)
  /-- The addresses of a link change between the calls. -/
  | edit (action : AddressAction) (addresses : List IpNet) (name : String)
  /-- A link goes because the one it was stacked on went. -/
  | lose (name : String)

def LinkCall.adds : LinkCall → Option String
  | .create parentIfname vrid family _ => some (macVlanName parentIfname vrid family)
  | .delete .. => none
  | .edit .. => none
  | .lose .. => none

namespace Link

theorem Remains.index {later link : Link} (remains : later.Remains link) :
    later.index = link.index := by
  rw [remains]

theorem Remains.is_mac_vlan_of {later link : Link} (remains : later.Remains link)
    {virtualMac : List UInt8} {parentIndex : Nat}
    (matching : link.IsMacVlanOf virtualMac parentIndex) :
    later.IsMacVlanOf virtualMac parentIndex := by
  rw [remains]
  exact ⟨matching.kind, matching.mac, matching.parent⟩

end Link

/-- `link` is the mac-vlan of this family and VRID on the link called `parentIfname`. -/
structure Host.MacVlanOn (host : Host) (name parentIfname : String) (vrid : UInt8)
    (family : AddressFamily) (link parent : Link) : Prop where
  found : host.link name = some link
  on : host.link parentIfname = some parent
  matching : link.IsMacVlanOf (family.virtualMac vrid) parent.index

def Host.Plain (host : Host) (name : String) : Prop :=
  ∀ link, host.link name = some link → link.isMacVlan = false

namespace Kernel

/-- A mac-vlan that is requested on the link of this name is recorded as hanging off it. -/
def Records (kernel : Kernel) (host : Host) (parentIfname : String) : Prop :=
  ∀ parent, host.link parentIfname = some parent → kernel.lower host parent.index = parent.index

def call (kernel : Kernel) (used : Finset Nat) (host : Host) :
    LinkCall → Host × List (Except NetworkError String)
  | .create parentIfname vrid family requests =>
      let (next, result) :=
        host.requestMacVlan kernel (kernel.allocate used) requests parentIfname vrid family
      (next, [result])
  | .delete name requests => (host.requestDeleteMacVlan requests name, [])
  | .edit action addresses name => (host.applyAddressAction action addresses name, [])
  | .lose name => ({ host with links := host.links.erase name }, [])

theorem call_link (kernel : Kernel) (used : Finset Nat) (host : Host) (request : LinkCall)
    {name : String} {later : Link}
    (present : (kernel.call used host request).1.link name = some later) :
    (∃ link, host.link name = some link ∧ later.Remains link) ∨
      (host.link name = none ∧ request.adds = some name ∧
        later.index = kernel.allocate used) := by
  cases request with
  | delete deleted requests =>
      apply Or.inl
      simp only [call, Host.requestDeleteMacVlan] at present
      split_ifs at present
      · exact @Host.remains_perform host (.deleteMacVlan deleted) name later present
      · exact ⟨later, present, rfl⟩
  | edit action addresses edited =>
      apply Or.inl
      exact @Host.remains_perform host (.virtualAddressAction action addresses edited) name later
        present
  | lose lost =>
      apply Or.inl
      refine ⟨later, ?_, rfl⟩
      by_cases same : name = lost
      · subst same
        rw [call, Host.link, AList.lookup_erase] at present
        contradiction
      · rw [call, Host.link, AList.lookup_erase_ne same] at present
        exact present
  | create parentIfname vrid family requests =>
      have cases := host.request_cases kernel (kernel.allocate used) requests parentIfname vrid
        family
      simp only [call] at present
      generalize host.requestMacVlan kernel (kernel.allocate used) requests parentIfname vrid
        family = outcome at cases present
      cases cases with
      | refused => exact .inl ⟨later, present, rfl⟩
      | reused => exact .inl ⟨later, present, rfl⟩
      | made parent _ absent =>
          simp only [Host.link_add_link_at] at present
          split_ifs at present with same
          · subst same
            simp only [Option.some.injEq] at present
            subst present
            exact .inr ⟨absent, rfl, rfl⟩
          · exact .inl ⟨later, present, rfl⟩

end Kernel

namespace LinkTable

def next (kernel : Kernel) (table : LinkTable) (request : LinkCall) : LinkTable where
  host := (kernel.call table.used table.host request).1
  used := table.used ∪ ((kernel.call table.used table.host request).1.links.entries.map
    fun entry => entry.2.index).toFinset
  known name link present := by
    apply Finset.mem_union_right
    rw [List.mem_toFinset, List.mem_map]
    exact ⟨⟨name, link⟩, AList.mem_lookup_iff.mp present, rfl⟩
  unique name other link otherLink present otherPresent same := by
    have fresh := kernel.allocate_fresh table.used
    rcases kernel.call_link table.used table.host request present with
      ⟨before, found, remains⟩ | ⟨_, added, index⟩
    · rcases kernel.call_link table.used table.host request otherPresent with
        ⟨otherBefore, otherFound, otherRemains⟩ | ⟨_, _, otherIndex⟩
      · apply table.unique name other before otherBefore found otherFound
        rw [← remains.index, ← otherRemains.index, same]
      · rw [← otherIndex, ← same, remains.index] at fresh
        exact absurd (table.known name before found) fresh
    · rcases kernel.call_link table.used table.host request otherPresent with
        ⟨otherBefore, otherFound, otherRemains⟩ | ⟨_, otherAdded, _⟩
      · rw [← index, same, otherRemains.index] at fresh
        exact absurd (table.known other otherBefore otherFound) fresh
      · rw [added] at otherAdded
        exact Option.some.inj otherAdded

end LinkTable

/-- The mac-vlan calls on a host, one after the other, each with its result. -/
def Kernel.machine (kernel : Kernel) : Machine LinkTable LinkCall (Except NetworkError String) where
  step table request :=
    (table.next kernel request, (kernel.call table.used table.host request).2)

namespace LinkTable

/-- The link of this name is a mac-vlan on the link called `parentIfname`, which no other
name has ever stood for. -/
structure Shares (table : LinkTable) (name parentIfname : String) (virtualMac : List UInt8)
    (parentIndex : Nat) : Prop where
  link : ∀ link, table.host.link name = some link → link.IsMacVlanOf virtualMac parentIndex
  parent : ∀ other link, table.host.link other = some link → link.index = parentIndex →
    other = parentIfname
  used : parentIndex ∈ table.used

theorem shares_next (kernel : Kernel) (table : LinkTable) (request : LinkCall)
    {name parentIfname : String} {virtualMac : List UInt8} {parentIndex : Nat}
    (present : table.host.Has name)
    (shares : table.Shares name parentIfname virtualMac parentIndex) :
    (table.next kernel request).Shares name parentIfname virtualMac parentIndex where
  link later found := by
    rcases kernel.call_link table.used table.host request found with
      ⟨link, before, remains⟩ | ⟨absent, _, _⟩
    · exact remains.is_mac_vlan_of (shares.link link before)
    · rw [Host.Has, absent] at present
      contradiction
  parent other later found index := by
    rcases kernel.call_link table.used table.host request found with
      ⟨link, before, remains⟩ | ⟨_, _, allocated⟩
    · exact shares.parent other link before (remains.index.symm.trans index)
    · have fresh := kernel.allocate_fresh table.used
      rw [← allocated, index] at fresh
      exact absurd shares.used fresh
  used := Finset.mem_union_left _ shares.used

/-- Every kernel records the parent asked for when that is no mac-vlan itself. -/
theorem records_of_plain (kernel : Kernel) (table : LinkTable) {parentIfname : String}
    (plain : table.host.Plain parentIfname) : kernel.Records table.host parentIfname := by
  intro parent found
  apply kernel.lower_ordinary
  intro name link present same
  cases table.unique name parentIfname link parent present found same
  exact plain link present

theorem create_spec (kernel : Kernel) (table : LinkTable) (parentIfname : String) (vrid : UInt8)
    (family : AddressFamily) (requests : CreateRequests) :
    let made := kernel.machine.step table (.create parentIfname vrid family requests)
    (∀ err, made.2 = [.error err] → made.1.host = table.host) ∧
      ∀ name, made.2 = [.ok name] → name = macVlanName parentIfname vrid family ∧
        (table.host.Has name → made.1.host = table.host) ∧
        (∃ link, made.1.host.link name = some link ∧ link.isMacVlan = true ∧
          link.mac = some (family.virtualMac vrid)) ∧
        (table.host.Has name ∨ kernel.Records table.host parentIfname →
          ∃ link parent, made.1.host.MacVlanOn name parentIfname vrid family link parent) := by
  have cases := table.host.request_cases kernel (kernel.allocate table.used) requests parentIfname
    vrid family
  simp only [Kernel.machine, next, Kernel.call, List.cons.injEq, and_true]
  generalize table.host.requestMacVlan kernel (kernel.allocate table.used) requests parentIfname
    vrid family = outcome at cases
  cases cases with
  | refused err => exact ⟨fun _ _ => rfl, fun name named => nomatch named⟩
  | reused parent link parentFound linkFound matching =>
      refine ⟨fun _ failed => (nomatch failed), ?_⟩
      rintro name ⟨rfl⟩
      exact ⟨rfl, fun _ => rfl, ⟨link, linkFound, matching.kind, matching.mac⟩,
        fun _ => ⟨link, parent, linkFound, parentFound, matching⟩⟩
  | made parent parentFound absent =>
      refine ⟨fun _ failed => (nomatch failed), ?_⟩
      rintro name ⟨rfl⟩
      have new : ¬ table.host.Has (macVlanName parentIfname vrid family) := by
        intro present
        rw [Host.Has, absent] at present
        contradiction
      have other : parentIfname ≠ macVlanName parentIfname vrid family := by
        intro same
        rw [← same, parentFound] at absent
        contradiction
      have added := Link.mac_vlan_of_is (kernel.allocate table.used) (family.virtualMac vrid)
        (kernel.lower table.host parent.index)
      refine ⟨rfl, fun present => absurd present new, ?_, ?_⟩
      · refine ⟨_, ?_, added.kind, added.mac⟩
        rw [Host.link_add_link_at, if_pos rfl]
      · intro recorded
        rw [recorded.resolve_left new parent parentFound] at added ⊢
        refine ⟨_, parent, ?_, ?_, added⟩
        · rw [Host.link_add_link_at, if_pos rfl]
        · rw [Host.link_add_link_at, if_neg other, parentFound]

theorem shares_of_mac_vlan (table : LinkTable) {name parentIfname : String} {vrid : UInt8}
    {family : AddressFamily} {link parent : Link}
    (macVlan : table.host.MacVlanOn name parentIfname vrid family link parent) :
    table.Shares name parentIfname (family.virtualMac vrid) parent.index where
  link other found := by
    rw [macVlan.found, Option.some.injEq] at found
    exact found ▸ macVlan.matching
  parent other link found same :=
    table.unique other parentIfname link parent found macVlan.on same
  used := table.known parentIfname parent macVlan.on

end LinkTable

namespace Sample

/-- Indices in order, and one attribute for each field of a link. -/
def kernel : Kernel where
  message link :=
    { index := link.index
      attributes :=
        (if link.isMacVlan then [.linkInfo [.kind .macVlan]] else []) ++
          link.mac.toList.map .address ++ link.parentIndex.toList.map .link }
  describes link := by
    constructor
    · rfl
    · cases link.isMacVlan <;> simp
    · intro mac
      cases link.isMacVlan <;> simp
    · intro index
      cases link.isMacVlan <;> simp
  allocate used := used.sup id + 1
  allocate_fresh used member := by
    have bound : used.sup id + 1 ≤ used.sup id := Finset.le_sup (f := id) member
    omega
  lower host index :=
    ((host.links.entries.map fun entry => entry.2).find? fun link => link.index = index).elim
      index Link.lower
  lower_ordinary host index plain := by
    cases found : (host.links.entries.map fun entry => entry.2).find?
        fun link => link.index = index with
    | none => rfl
    | some link =>
        obtain ⟨⟨name, shown⟩, entry, same⟩ := List.mem_map.mp (List.mem_of_find?_eq_some found)
        obtain rfl : shown = link := same
        have indexed : shown.index = index := by simpa using List.find?_some found
        have kind := plain name shown (AList.mem_lookup_iff.mpr entry) indexed
        simp [Link.lower, kind, indexed]

/-- A table of which no index was given out but those of its links. -/
def tableOf (host : Host)
    (distinct : (host.links.entries.map fun entry => entry.2.index).Nodup) : LinkTable where
  host
  used := (host.links.entries.map fun entry => entry.2.index).toFinset
  known name link present := by
    rw [List.mem_toFinset, List.mem_map]
    exact ⟨⟨name, link⟩, AList.mem_lookup_iff.mp present, rfl⟩
  unique name other link otherLink present otherPresent same := by
    have entries := List.inj_on_of_nodup_map distinct (AList.mem_lookup_iff.mp present)
      (AList.mem_lookup_iff.mp otherPresent) same
    exact congrArg Sigma.fst entries

/-- A second parent interface whose name has the hash of `eth0`. -/
def collidingHost : Host :=
  host.addLink "eth67348"
    { index := 3
      isMacVlan := false
      mac := some [2, 0, 0, 0, 0, 11]
      parentIndex := none
      ips := [] }

theorem colliding_indices :
    (collidingHost.links.entries.map fun entry => entry.2.index).Nodup := by
  decide +kernel

def collidingTable : LinkTable := tableOf collidingHost colliding_indices

/-- A parent interface that is itself a mac-vlan on `eth0`. -/
def stackedHost : Host :=
  host.addLink "mv0"
    { index := 3
      isMacVlan := true
      mac := some [2, 0, 0, 0, 0, 12]
      parentIndex := some 2
      ips := [] }

theorem stacked_indices : (stackedHost.links.entries.map fun entry => entry.2.index).Nodup := by
  decide +kernel

def stackedTable : LinkTable := tableOf stackedHost stacked_indices

end Sample

namespace LinkTable

end LinkTable

example :
    let first := Sample.collidingHost.requestMacVlan Sample.kernel 4 .allServed "eth0" 51 .v4
    first.2 = .ok "fover4-51-9724" ∧
      (first.1.requestMacVlan Sample.kernel 5 .allServed "eth67348" 51 .v4).2 =
        .error (.macVlanMismatch "fover4-51-9724"
          "it belongs to a different parent interface than eth67348") := by
  decide +kernel

end Failover
