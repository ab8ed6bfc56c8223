import Failover.Invariants
import Failover.Library.MessageSoup

/-!
# Routers that hear each other

Instances on different hosts exchange advertisements and nothing else. A message
is written as the input it arrives as, so a delivery is an ordinary input and
only its origin is constrained.
-/

namespace Failover

open Library VirtualRouter

set_option autoImplicit false

def vrrpMcastAddr : Ipv4Addr := 0xe0000012

/-- How a sent advertisement reaches a listener. Both senders set the TTL to 255. -/
def Effect.arrival : Effect → Option Input
  | .sendVrrpPacketV4 _ srcIp packet => some (.vrrpV4
      { source := srcIp
        destination := vrrpMcastAddr
        ttl := 255
        payload := packet.encode (.v4 srcIp) })
  | .sendVrrpPacketV6 _ srcIp packet => some (.vrrpV6 (packet.encode (.v6 srcIp)) srcIp)
  | _ => none

def Input.message : Input → Option Input
  | .vrrpV4 packet => some (.vrrpV4 packet)
  | .vrrpV6 payload srcIp => some (.vrrpV6 payload srcIp)
  | _ => none

def Input.FromLocal (env : Env) : Input → Prop
  | .vrrpV4 packet => env.isLocal (.v4 packet.source) = true
  | .vrrpV6 _ srcIp => env.isLocal (.v6 srcIp) = true
  | _ => False

instance (env : Env) : (input : Input) → Decidable (input.FromLocal env)
  | .vrrpV4 packet => inferInstanceAs (Decidable (env.isLocal (.v4 packet.source) = true))
  | .vrrpV6 _ srcIp => inferInstanceAs (Decidable (env.isLocal (.v6 srcIp) = true))
  | .notify _ | .tick | .arp _ | .ndp _ => inferInstanceAs (Decidable False)

def VirtualRouter.adverts (vrouter : VirtualRouter) : List Input :=
  vrouter.sendAdvertisement.filterMap Effect.arrival

def VirtualRouter.ipv4Advert (vrouter : VirtualRouter) : Ipv4Packet where
  source := vrouter.primaryIp
  destination := vrrpMcastAddr
  ttl := 255
  payload := (vrouter.advertisement (.v4 vrouter.ipv4Addrs)).encode (.v4 vrouter.primaryIp)

/-- The source filter of the router recognises its own advertisements. -/
structure VirtualRouter.KnowsItself (vrouter : VirtualRouter) (env : Env) : Prop where
  v4 : env.isLocal (.v4 vrouter.primaryIp) = true
  v6 : ∀ src, vrouter.primaryIpV6 = some src → env.isLocal (.v6 src) = true

instance (vrouter : VirtualRouter) (env : Env) : Decidable (vrouter.KnowsItself env) :=
  decidable_of_iff (env.isLocal (.v4 vrouter.primaryIp) = true ∧
      vrouter.primaryIpV6.all (fun src => env.isLocal (.v6 src)) = true)
    ⟨fun both => ⟨both.1, (Option.all_eq_true _ _).mp both.2⟩,
      fun known => ⟨known.v4, (Option.all_eq_true _ _).mpr known.v6⟩⟩

def Instance.party : Party Instance (Env × Input) Input where
  react inst moment :=
    ((inst.step moment.1 moment.2).1,
      (inst.step moment.1 moment.2).2.filterMap Effect.arrival)
  received moment := moment.2.message

abbrev Cluster (Name : Type*) := Soup Name Instance Input

def Cluster.start {Name : Type*} (built : Name → VirtualRouter) : Cluster Name where
  locals name := .new (built name)
  sent := []

theorem Input.message_of_vrrp {input : Input} (vrrp : input.IsVrrp) : input.message = some input := by
  cases input <;> first | rfl | exact vrrp.elim

namespace VirtualRouter

theorem virtual_addresses_send_nothing (vrouter : VirtualRouter) (action : AddressAction) :
    ∀ effect ∈ vrouter.virtualAddresses action, ¬ effect.IsAdvertisement := by
  intro effect member
  rcases virtual_address_of_mem member with ⟨family, iface, _, rfl⟩
  exact id

theorem delete_mac_vlans_send_nothing (vrouter : VirtualRouter) :
    ∀ effect ∈ vrouter.deleteMacVlans, ¬ effect.IsAdvertisement := by
  intro effect member
  rcases deletion_of_mem member with ⟨family, iface, _, rfl⟩
  exact id

theorem neighbor_not_advertisement {effect : Effect} (neighbor : effect.IsNeighbor) :
    ¬ effect.IsAdvertisement := by
  cases effect <;> first | exact id | exact neighbor.elim

theorem transition_sends {env : Env} {vrouter next : VirtualRouter} {input : Input}
    {effects : List Effect} {panicked : Bool}
    (transition : Transition env vrouter input next effects panicked) :
    ∀ effect ∈ effects, effect.IsAdvertisement → effect ∈ vrouter.sendAdvertisement := by
  intro effect member advert
  cases transition with
  | silent => contradiction
  | neighbor _ replies => exact absurd advert (neighbor_not_advertisement (replies effect member))
  | panics => exact member
  | takesOver fires takes link found =>
      rcases take_over_calls member with sent | announced | added
      · exact sent
      · exact absurd advert (neighbor_not_advertisement announced)
      · exact absurd advert (virtual_addresses_send_nothing vrouter .add effect added)
  | starts => exact absurd advert (virtual_addresses_send_nothing vrouter .delete effect member)
  | stopsInit => exact absurd advert (delete_mac_vlans_send_nothing vrouter effect member)
  | stopsBackup => exact absurd advert (delete_mac_vlans_send_nothing vrouter effect member)
  | stopsMaster =>
      rcases shutdown_calls member with sent | removed | deleted
      · exact sent
      · exact absurd advert (virtual_addresses_send_nothing vrouter .delete effect removed)
      · exact absurd advert (delete_mac_vlans_send_nothing vrouter effect deleted)
  | advertises => exact member
  | hearsLeaving => contradiction
  | defers => contradiction
  | preempts =>
      rw [List.mem_singleton.mp member] at advert
      exact advert.elim
  | answers => exact member
  | yields =>
      rw [List.mem_singleton.mp member] at advert
      exact advert.elim

theorem arrival_advertisement {effect : Effect} {message : Input}
    (arrives : effect.arrival = some message) : effect.IsAdvertisement := by
  cases effect <;> trivial

theorem transition_arrivals {env : Env} {vrouter next : VirtualRouter} {input : Input}
    {effects : List Effect} {panicked : Bool}
    (transition : Transition env vrouter input next effects panicked) :
    ∀ message ∈ effects.filterMap Effect.arrival, message ∈ vrouter.adverts := by
  intro message member
  rcases List.mem_filterMap.mp member with ⟨effect, sent, arrives⟩
  exact List.mem_filterMap.mpr
    ⟨effect, transition_sends transition effect sent (arrival_advertisement arrives), arrives⟩

theorem accept_decoded {vrouter : VirtualRouter} {payload : List UInt8} {srcIp dstIp : IpAddr}
    {ttl : UInt8} {packet : VrrpPacket}
    (accepted : vrouter.accept payload srcIp dstIp ttl = some packet) :
    VrrpPacket.decode payload srcIp dstIp = .ok packet ∧
      vrouter.verifyVrrpPacket packet ttl = .ok () ∧
      (vrouter.macVlan packet.addresses.family).isSome = true := by
  unfold accept at accepted
  split at accepted
  · rename_i decoded result
    split at accepted
    · rename_i verified
      split at accepted
      · rename_i link
        cases accepted
        exact ⟨result, verified, link⟩
      · contradiction
    · contradiction
  · contradiction

theorem heard_v4_iff {env : Env} {vrouter : VirtualRouter} {ipPacket : Ipv4Packet}
    {packet : VrrpPacket} :
    vrouter.heard env (.vrrpV4 ipPacket) = some packet ↔
      env.isLocal (.v4 ipPacket.source) = false ∧
        vrouter.accept ipPacket.payload (.v4 ipPacket.source) (.v4 ipPacket.destination)
          ipPacket.ttl = some packet := by
  cases own : env.isLocal (.v4 ipPacket.source) <;> simp [heard, own]

theorem heard_v6_iff {env : Env} {vrouter : VirtualRouter} {payload : List UInt8}
    {srcIp : Ipv6Addr} {packet : VrrpPacket} :
    vrouter.heard env (.vrrpV6 payload srcIp) = some packet ↔
      env.isLocal (.v6 srcIp) = false ∧
        vrouter.accept payload (.v6 srcIp) (.v6 vrrpV6McastAddr) 255 = some packet := by
  cases own : env.isLocal (.v6 srcIp) <;> simp [heard, own]

theorem from_local_unheard {env : Env} {input : Input} (fromLocal : input.FromLocal env)
    (vrouter : VirtualRouter) : vrouter.heard env input = none := by
  cases input with
  | vrrpV4 packet => exact if_pos fromLocal
  | vrrpV6 payload srcIp => exact if_pos fromLocal
  | notify event => rfl
  | tick => rfl
  | arp packet => rfl
  | ndp payload => rfl

theorem mem_adverts {vrouter : VirtualRouter} {message : Input} :
    message ∈ vrouter.adverts ↔
      message = .vrrpV4 vrouter.ipv4Advert ∨
      ∃ iface src, vrouter.macVlanInterfaceV6 = some iface ∧ vrouter.primaryIpV6 = some src ∧
        message = .vrrpV6
          ((vrouter.advertisement (.v6 vrouter.ipv6Addrs)).encode (.v6 src)) src := by
  unfold adverts sendAdvertisement
  cases vrouter.macVlanInterfaceV6 <;> cases vrouter.primaryIpV6 <;>
    simp [Effect.arrival, ipv4Advert]

theorem advert_vrrp {sender : VirtualRouter} {message : Input} (sent : message ∈ sender.adverts) :
    message.IsVrrp := by
  rcases mem_adverts.mp sent with rfl | ⟨iface, src, _, _, rfl⟩ <;> trivial

/-- A receiver reads in an advertisement the priority its sender has. -/
theorem heard_priority {env : Env} {sender receiver : VirtualRouter} {message : Input}
    {packet : VrrpPacket} (sent : message ∈ sender.adverts)
    (hears : receiver.heard env message = some packet) : packet.priority = sender.priority := by
  rcases mem_adverts.mp sent with rfl | ⟨iface, src, _, _, rfl⟩
  · have decoded := (accept_decoded (heard_v4_iff.mp hears).2).1
    simp only [ipv4Advert] at decoded
    exact VrrpPacket.decode_encode_priority decoded
  · exact VrrpPacket.decode_encode_priority (accept_decoded (heard_v6_iff.mp hears).2).1

theorem own_advert_from_local {env : Env} {sender : VirtualRouter} (own : sender.KnowsItself env)
    {message : Input} (sent : message ∈ sender.adverts) : message.FromLocal env := by
  rcases mem_adverts.mp sent with rfl | ⟨iface, src, _, source, rfl⟩
  · exact own.v4
  · exact own.v6 src source

end VirtualRouter

theorem Instance.RunOf.adverts {built : VirtualRouter} {inst : Instance}
    (holds : Instance.RunOf built inst) : inst.vrouter.adverts = built.adverts := by
  rcases holds.config with ⟨fsm, config⟩
  rw [config]
  rfl

namespace Cluster

variable {Name : Type*} {built : Name → VirtualRouter}

/-- Each instance runs its own router, and every message is an advertisement of
one of them. -/
abbrev Sound (built : Name → VirtualRouter) (cluster : Cluster Name) : Prop :=
  Soup.Lawful (fun name inst => Instance.RunOf (built name) inst)
    (fun message => ∃ name, message ∈ (built name).adverts) cluster

theorem start_sound (built : Name → VirtualRouter) : Sound built (start built) :=
  ⟨fun name => Instance.run_of_new (built name), by simp [start]⟩

theorem party_sends {vrouter : VirtualRouter} {inst : Instance}
    (holds : Instance.RunOf vrouter inst) (moment : Env × Input) :
    ∀ message ∈ (Instance.party.react inst moment).2, message ∈ vrouter.adverts := by
  intro message member
  simp only [Instance.party] at member
  cases poisoned : inst.poisoned with
  | true =>
      rw [Instance.step_poisoned poisoned] at member
      contradiction
  | false =>
      rw [← holds.adverts]
      exact transition_arrivals (Instance.step_transition poisoned moment.1 moment.2) message member

theorem party_sound (allowed : Name → Env × Input → Prop) (name : Name) (inst : Instance)
    (moment : Env × Input) (holds : Instance.RunOf (built name) inst) (_ : allowed name moment)
    (_ : ∀ message, Instance.party.received moment = some message →
      ∃ sender, message ∈ (built sender).adverts) :
    Instance.RunOf (built name) (Instance.party.react inst moment).1 ∧
      ∀ message ∈ (Instance.party.react inst moment).2,
        ∃ sender, message ∈ (built sender).adverts := by
  constructor
  · exact Instance.run_of_step holds moment.1 moment.2
  · intro message member
    exact ⟨name, party_sends holds moment message member⟩

variable [DecidableEq Name]

theorem sound_step (allowed : Name → Env × Input → Prop) (cluster : Cluster Name)
    (move : Name × Env × Input) (sound : Sound built cluster)
    (enabled : Soup.Enabled Instance.party allowed cluster move) :
    Sound built ((Soup.machine Instance.party).step cluster move).1 :=
  Soup.lawful_step (party_sound allowed) cluster move sound enabled

theorem sound_after {allowed : Name → Env × Input → Prop} {moves : List (Name × Env × Input)}
    (enabled : (Soup.machine Instance.party).AllSteps (Soup.Enabled Instance.party allowed)
      (start built) moves) :
    Sound built ((Soup.machine Instance.party).after (start built) moves) :=
  Soup.lawful_after (party_sound allowed) (start_sound built) enabled

end Cluster

end Failover
