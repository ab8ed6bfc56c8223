import Failover.Host
import Mathlib.Data.Finset.Basic

/-!
# Requests to netlink

The mac-vlan calls of `general.rs` with the link messages they read, and with
every request free to fail. When none fails they are the calls of `Host`.
-/

namespace Failover

open Library VirtualRouter

set_option autoImplicit false

inductive InfoKind where
  | macVlan
  | other
  deriving DecidableEq, Repr

inductive LinkInfo where
  | kind (kind : InfoKind)
  | other
  deriving DecidableEq, Repr

inductive LinkAttribute where
  | linkInfo (infos : List LinkInfo)
  | address (mac : List UInt8)
  | link (index : Nat)
  | other
  deriving Repr

structure LinkMessage where
  index : Nat
  attributes : List LinkAttribute

inductive NetlinkError where
  | netlinkError (code : Int)
  | other
  deriving DecidableEq, Repr

def enodev : Int := 19

def isNoSuchDevice (err : NetlinkError) : Bool := err = .netlinkError (-enodev)

def linkIsMacVlan (link : LinkMessage) : Bool :=
  link.attributes.any fun attr =>
    match attr with
    | .linkInfo infos => infos.any fun info => info = .kind .macVlan
    | _ => false

def linkMacAddress (link : LinkMessage) : Option (List UInt8) :=
  link.attributes.findSome? fun attr =>
    match attr with
    | .address mac => some mac
    | _ => none

def linkParentIndex (link : LinkMessage) : Option Nat :=
  link.attributes.findSome? fun attr =>
    match attr with
    | .link index => some index
    | _ => none

/-- A message about the link, its attributes in any order among any others. -/
structure LinkMessage.Describes (message : LinkMessage) (link : Link) : Prop where
  index : message.index = link.index
  kind : link.isMacVlan = true ↔
    ∃ infos, .linkInfo infos ∈ message.attributes ∧ .kind .macVlan ∈ infos
  mac : ∀ mac, .address mac ∈ message.attributes ↔ link.mac = some mac
  parent : ∀ index, .link index ∈ message.attributes ↔ link.parentIndex = some index

theorem find_attribute {Value : Type} (read : LinkAttribute → Option Value)
    {attributes : List LinkAttribute} {field : Option Value}
    (carried : ∀ value, (∃ attr ∈ attributes, read attr = some value) ↔ field = some value) :
    attributes.findSome? read = field := by
  cases found : attributes.findSome? read with
  | some value =>
      rcases List.exists_of_findSome?_eq_some found with ⟨attr, member, same⟩
      exact ((carried value).mp ⟨attr, member, same⟩).symm
  | none =>
      rw [List.findSome?_eq_none_iff] at found
      cases present : field with
      | none => rfl
      | some value =>
          rcases (carried value).mpr present with ⟨attr, member, same⟩
          rw [found attr member] at same
          contradiction

namespace LinkMessage.Describes

variable {message : LinkMessage} {link : Link}

theorem is_mac_vlan (describes : message.Describes link) :
    linkIsMacVlan message = link.isMacVlan := by
  rw [Bool.eq_iff_iff, describes.kind, linkIsMacVlan, List.any_eq_true]
  constructor
  · rintro ⟨attr, member, kind⟩
    cases attr with
    | linkInfo infos => exact ⟨infos, member, by simpa using kind⟩
    | address => contradiction
    | link => contradiction
    | other => contradiction
  · rintro ⟨infos, member, kind⟩
    exact ⟨.linkInfo infos, member, by simpa using kind⟩

theorem mac_address (describes : message.Describes link) :
    linkMacAddress message = link.mac := by
  apply find_attribute
  intro mac
  rw [← describes.mac]
  constructor
  · rintro ⟨attr, member, same⟩
    cases attr with
    | address => simpa [← Option.some.inj same] using member
    | linkInfo => contradiction
    | link => contradiction
    | other => contradiction
  · exact fun member => ⟨_, member, rfl⟩

theorem parent_index (describes : message.Describes link) :
    linkParentIndex message = link.parentIndex := by
  apply find_attribute
  intro index
  rw [← describes.parent]
  constructor
  · rintro ⟨attr, member, same⟩
    cases attr with
    | link => simpa [← Option.some.inj same] using member
    | linkInfo => contradiction
    | address => contradiction
    | other => contradiction
  · exact fun member => ⟨_, member, rfl⟩

end LinkMessage.Describes

/-- How the kernel answers: what it says of a link, the index it gives a new one when
these have been given out, and the parent it records for a mac-vlan that is requested
on the link of an index. Only on a mac-vlan need this be another link. -/
structure Kernel where
  message : Link → LinkMessage
  describes : ∀ link, (message link).Describes link
  allocate : Finset Nat → Nat
  allocate_fresh : ∀ used, allocate used ∉ used
  lower : Host → Nat → Nat
  lower_ordinary : ∀ host index, (∀ name link, host.link name = some link →
    link.index = index → link.isMacVlan = false) → lower host index = index

/-- What becomes of a lookup. A name that no link has is answered with `ENODEV`, or with
an empty stream; no other failure is an `ENODEV`. -/
inductive Lookup where
  | answered
  | emptied
  | failed (err : NetlinkError) (genuine : isNoSuchDevice err = false)

def Kernel.lookup (kernel : Kernel) (host : Host) (name : String) :
    Lookup → Except NetlinkError (Option LinkMessage)
  | .failed err _ => .error err
  | .answered =>
      match host.link name with
      | some link => .ok (some (kernel.message link))
      | none => .error (.netlinkError (-enodev))
  | .emptied => .ok ((host.link name).map kernel.message)

namespace Kernel

variable {kernel : Kernel} {host : Host} {name : String} {request : Lookup}

theorem lookup_found {message : LinkMessage}
    (found : kernel.lookup host name request = .ok (some message)) :
    ∃ link, host.link name = some link ∧ message.Describes link := by
  cases present : host.link name with
  | none => cases request <;> simp [lookup, present] at found
  | some link =>
      have same : kernel.message link = message := by
        cases request with
        | answered => simpa [lookup, present] using found
        | emptied => simpa [lookup, present] using found
        | failed => simp [lookup] at found
      exact ⟨link, rfl, same ▸ kernel.describes link⟩

theorem lookup_empty (found : kernel.lookup host name request = .ok none) :
    host.link name = none := by
  cases present : host.link name with
  | none => rfl
  | some link => cases request <;> simp [lookup, present] at found

theorem lookup_no_such_device {err : NetlinkError}
    (found : kernel.lookup host name request = .error err) (absent : isNoSuchDevice err = true) :
    host.link name = none := by
  cases present : host.link name with
  | none => rfl
  | some link =>
      cases request with
      | answered => simp [lookup, present] at found
      | emptied => simp [lookup] at found
      | failed reported genuine =>
          simp only [lookup, Except.error.injEq] at found
          rw [found, absent] at genuine
          contradiction

end Kernel

/-- What becomes of the requests of one `create_mac_vlan`. -/
structure CreateRequests where
  connected : Bool
  parent : Lookup
  existing : Lookup
  added : Bool

/-- What becomes of the requests of one `delete_mac_vlan`. -/
structure DeleteRequests where
  connected : Bool
  found : Bool
  counted : Bool
  deleted : Bool

def CreateRequests.allServed : CreateRequests where
  connected := true
  parent := .answered
  existing := .answered
  added := true

namespace Link

def macVlanOf (index : Nat) (virtualMac : List UInt8) (parentIndex : Nat) : Link where
  index
  isMacVlan := true
  mac := some virtualMac
  parentIndex := some parentIndex
  ips := []

structure IsMacVlanOf (link : Link) (virtualMac : List UInt8) (parentIndex : Nat) : Prop where
  kind : link.isMacVlan = true
  mac : link.mac = some virtualMac
  parent : link.parentIndex = some parentIndex

theorem mac_vlan_of_is (index : Nat) (virtualMac : List UInt8) (parentIndex : Nat) :
    (macVlanOf index virtualMac parentIndex).IsMacVlanOf virtualMac parentIndex :=
  ⟨rfl, rfl, rfl⟩

end Link

namespace Host

def addLinkAt (host : Host) (index : Nat) (name : String) (link : Link) : Host :=
  { host with
    links := host.links.insert name link
    nextIndex := max host.nextIndex (index + 1) }

theorem link_add_link_at (host : Host) (index : Nat) (name other : String) (link : Link) :
    (host.addLinkAt index name link).link other =
      if other = name then some link else host.link other :=
  host.link_set_link name other link

/-- Any request that fails ends the call, with the links as they are. -/
def requestDeleteMacVlan (host : Host) (requests : DeleteRequests) (name : String) : Host :=
  if requests.connected ∧ requests.found ∧ requests.counted ∧ requests.deleted then
    host.applyDeleteMacVlan name
  else host

/-- The last request of `create_mac_vlan`. The link it adds gets this index, and the
parent that the kernel records. -/
def requestLink (host : Host) (kernel : Kernel) (index : Nat) (added : Bool) (name : String)
    (virtualMac : List UInt8) (parentIndex : Nat) : Host × Except NetworkError String :=
  if added = false then (host, .error (.macVlanCreate name))
  else
    (host.addLinkAt index name (.macVlanOf index virtualMac (kernel.lower host parentIndex)),
      .ok name)

def requestMacVlan (host : Host) (kernel : Kernel) (index : Nat) (requests : CreateRequests)
    (parentIfname : String) (vrid : UInt8) (family : AddressFamily) :
    Host × Except NetworkError String :=
  let name := macVlanName parentIfname vrid family
  let virtualMac := family.virtualMac vrid
  if requests.connected = false then (host, .error .netlinkConnect)
  else
    match kernel.lookup host parentIfname requests.parent with
    | .ok none => (host, .error (.interfaceNotFound parentIfname))
    | .error _ => (host, .error (.interfaceLookup parentIfname))
    | .ok (some parent) =>
        match kernel.lookup host name requests.existing with
        | .ok (some link) =>
            if linkIsMacVlan link = false then (host, .error (.notMacVlan name))
            else if linkMacAddress link ≠ some virtualMac then
              (host, .error (.macVlanMismatch name
                "its MAC address doesn't match this instance's virtual MAC"))
            else if linkParentIndex link ≠ some parent.index then
              (host, .error (.macVlanMismatch name
                ("it belongs to a different parent interface than " ++ parentIfname)))
            else (host, .ok name)
        | .ok none => host.requestLink kernel index requests.added name virtualMac parent.index
        | .error err =>
            if isNoSuchDevice err = true then
              host.requestLink kernel index requests.added name virtualMac parent.index
            else (host, .error (.interfaceLookup name))

/-- The call fails and changes nothing, reuses a link that passes the three checks, or
makes that link. -/
inductive MacVlanRequest (host : Host) (kernel : Kernel) (index : Nat) (parentIfname : String)
    (vrid : UInt8) (family : AddressFamily) : Host × Except NetworkError String → Prop where
  | refused (err : NetworkError) :
      MacVlanRequest host kernel index parentIfname vrid family (host, .error err)
  | reused (parent link : Link) (parentFound : host.link parentIfname = some parent)
      (linkFound : host.link (macVlanName parentIfname vrid family) = some link)
      (matching : link.IsMacVlanOf (family.virtualMac vrid) parent.index) :
      MacVlanRequest host kernel index parentIfname vrid family
        (host, .ok (macVlanName parentIfname vrid family))
  | made (parent : Link) (parentFound : host.link parentIfname = some parent)
      (absent : host.link (macVlanName parentIfname vrid family) = none) :
      MacVlanRequest host kernel index parentIfname vrid family
        (host.addLinkAt index (macVlanName parentIfname vrid family)
          (.macVlanOf index (family.virtualMac vrid) (kernel.lower host parent.index)),
          .ok (macVlanName parentIfname vrid family))

theorem request_cases (host : Host) (kernel : Kernel) (index : Nat) (requests : CreateRequests)
    (parentIfname : String) (vrid : UInt8) (family : AddressFamily) :
    host.MacVlanRequest kernel index parentIfname vrid family
      (host.requestMacVlan kernel index requests parentIfname vrid family) := by
  have added (parent : Link) (parentFound : host.link parentIfname = some parent)
      (absent : host.link (macVlanName parentIfname vrid family) = none)
      (requested : host.requestMacVlan kernel index requests parentIfname vrid family =
        host.requestLink kernel index requests.added (macVlanName parentIfname vrid family)
          (family.virtualMac vrid) parent.index) :
      host.MacVlanRequest kernel index parentIfname vrid family
        (host.requestMacVlan kernel index requests parentIfname vrid family) := by
    rw [requested, requestLink]
    split_ifs
    · exact .refused _
    · exact .made parent parentFound absent
  unfold requestMacVlan at added ⊢
  split_ifs at added ⊢ with connected
  · exact .refused _
  cases parentReply : kernel.lookup host parentIfname requests.parent with
  | error err => exact .refused _
  | ok reply =>
      cases reply with
      | none => exact .refused _
      | some parentMessage =>
          rcases Kernel.lookup_found parentReply with ⟨parent, parentFound, parentShown⟩
          simp only [parentReply, parentShown.index] at added ⊢
          cases reply : kernel.lookup host (macVlanName parentIfname vrid family)
              requests.existing with
          | error err =>
              by_cases absent : isNoSuchDevice err = true
              · simp only [reply, absent, if_true] at added ⊢
                exact added parent parentFound (Kernel.lookup_no_such_device reply absent) rfl
              · simp only [absent]
                exact .refused _
          | ok found =>
              cases found with
              | none =>
                  simp only [reply] at added ⊢
                  exact added parent parentFound (Kernel.lookup_empty reply) rfl
              | some message =>
                  rcases Kernel.lookup_found reply with ⟨link, linkFound, shown⟩
                  simp only [shown.is_mac_vlan, shown.mac_address, shown.parent_index]
                  split_ifs with kind mac index
                  · exact .refused _
                  · exact .refused _
                  · exact .refused _
                  · exact .reused parent link parentFound linkFound
                      ⟨by simpa using kind, by simpa using mac, by simpa using index⟩

theorem request_all_served (host : Host) (kernel : Kernel) (parentIfname : String) (vrid : UInt8)
    (family : AddressFamily) (records : ∀ parent, host.link parentIfname = some parent →
      kernel.lower host parent.index = parent.lower) :
    host.requestMacVlan kernel host.nextIndex .allServed parentIfname vrid family =
      match host.createMacVlan parentIfname vrid family with
      | .ok (next, name) => (next, .ok name)
      | .error err => (host, .error err) := by
  have fresh (name : String) (link : Link) :
      host.addLinkAt host.nextIndex name link = host.addLink name link := by
    simp [addLinkAt, addLink]
  unfold requestMacVlan createMacVlan
  simp only [CreateRequests.allServed, Kernel.lookup, Bool.true_eq_false, if_false]
  cases found : host.link parentIfname with
  | none => rfl
  | some parent =>
      cases host.link (macVlanName parentIfname vrid family) with
      | none =>
          simp [isNoSuchDevice, requestLink, fresh, Link.macVlanOf, (kernel.describes parent).index,
            records parent found]
      | some link =>
          simp only [(kernel.describes link).is_mac_vlan, (kernel.describes link).mac_address,
            (kernel.describes link).parent_index, (kernel.describes parent).index]
          split_ifs <;> rfl

end Host

end Failover
