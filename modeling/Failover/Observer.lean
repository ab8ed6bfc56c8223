import Failover.Router

/-!
# Events

The reaction to an event under the lock, after `observer.rs`. A handler returns
the router as it leaves it, its calls in order, and its result; a panic leaves
the router as it was at that point.
-/

namespace Failover

open Library

set_option autoImplicit false

structure Handled where
  result : Outcome NetworkError Unit
  vrouter : VirtualRouter
  effects : List Effect

namespace Handled

def unchanged (vrouter : VirtualRouter) : Handled where
  result := .ok ()
  vrouter
  effects := []

def failed (vrouter : VirtualRouter) (error : NetworkError) : Handled where
  result := .err error
  vrouter
  effects := []

def done (vrouter : VirtualRouter) (effects : List Effect) : Handled where
  result := .ok ()
  vrouter
  effects

/-- The rest of a handler, run on the router as the effects so far leave it. -/
def before (effects : List Effect) (rest : Handled) : Handled :=
  { rest with effects := effects ++ rest.effects }

def panics (handled : Handled) : Bool :=
  match handled.result with
  | .panicked => true
  | _ => false

def Idle (vrouter : VirtualRouter) (handled : Handled) : Prop :=
  handled.vrouter = vrouter ∧ handled.effects = [] ∧ handled.panics = false

instance (vrouter : VirtualRouter) (handled : Handled) : Decidable (handled.Idle vrouter) :=
  inferInstanceAs (Decidable (_ ∧ _ ∧ _))

theorem unchanged_idle (vrouter : VirtualRouter) : (unchanged vrouter).Idle vrouter :=
  ⟨rfl, rfl, rfl⟩

theorem failed_idle (vrouter : VirtualRouter) (error : NetworkError) :
    (failed vrouter error).Idle vrouter :=
  ⟨rfl, rfl, rfl⟩

end Handled

namespace VirtualRouter

def v6InterfaceMac (env : Env) (vrouter : VirtualRouter) : Option MacAddr :=
  match vrouter.macVlanInterfaceV6 with
  | none => none
  | some name => match env.getInterface name with
    | .error _ => none
    | .ok interface => interface.mac

def virtualAddresses (action : AddressAction) (vrouter : VirtualRouter) : List Effect :=
  .virtualAddressAction action vrouter.strIpv4Addresses vrouter.macVlanInterfaceV4 ::
    match vrouter.macVlanInterfaceV6 with
    | some v6Iface => [.virtualAddressAction action vrouter.strIpv6Addresses v6Iface]
    | none => []

def addVirtualAddresses (vrouter : VirtualRouter) : List Effect :=
  vrouter.virtualAddresses .add

def deleteVirtualAddresses (vrouter : VirtualRouter) : List Effect :=
  vrouter.virtualAddresses .delete

def announceOwnership (env : Env) (vrouter : VirtualRouter) (v4Mac : MacAddr) : List Effect :=
  vrouter.sendGratuitousArps v4Mac ++
    match vrouter.v6InterfaceMac env with
    | some v6Mac => vrouter.sendNeighborAdvertisements v6Mac
    | none => []

def deleteMacVlans (vrouter : VirtualRouter) : List Effect :=
  .deleteMacVlan vrouter.macVlanInterfaceV4 ::
    match vrouter.macVlanInterfaceV6 with
    | some v6Iface => [.deleteMacVlan v6Iface]
    | none => []

/-- The body shared by `Startup` as the address owner and by `MasterDown`: the
advertisement goes out before the MAC address is unwrapped. -/
def becomeMaster (env : Env) (vrouter : VirtualRouter) (interface : NetworkInterface) : Handled :=
  match interface.mac with
  | none => { result := .panicked, vrouter, effects := vrouter.sendAdvertisement }
  | some mac => .done
      (vrouter.withFsm
        ((vrouter.fsm.setAdvertTimer env.setAt vrouter.advertInterval.toNat).setState .master))
      (vrouter.sendAdvertisement ++ vrouter.announceOwnership env mac ++
        vrouter.addVirtualAddresses)

def notifyMut (env : Env) (vrouter : VirtualRouter) (event : Event) : Handled :=
  match env.getInterface vrouter.macVlanInterfaceV4 with
  | .error error => .failed vrouter error
  | .ok interface =>
      match event with
      | .startup =>
          if vrouter.fsm.state = .init then
            if vrouter.priority = 255 then vrouter.becomeMaster env interface
            else .done
              (vrouter.withFsm
                ((vrouter.fsm.setMasterDownTimer env.setAt vrouter.masterDownInterval).setState
                  .backup))
              vrouter.deleteVirtualAddresses
          else .unchanged vrouter
      | .shutdown =>
          match vrouter.fsm.state with
          | .backup => .done (vrouter.withFsm (vrouter.fsm.disableTimer.setState .init))
              vrouter.deleteMacVlans
          | .master => .done (vrouter.withFsm (vrouter.fsm.disableTimer.setState .init))
              (vrouter.sendAdvertisement ++ vrouter.deleteVirtualAddresses ++
                vrouter.deleteMacVlans)
          | .init => .done vrouter vrouter.deleteMacVlans
      | .masterDown =>
          if vrouter.fsm.state = .backup then vrouter.becomeMaster env interface
          else .unchanged vrouter
      | .null => .unchanged vrouter

theorem announce_ownership_neighbor (env : Env) (vrouter : VirtualRouter) (mac : MacAddr) :
    ∀ effect ∈ vrouter.announceOwnership env mac, effect.IsNeighbor := by
  intro effect member
  rcases List.mem_append.mp member with arp | na
  · obtain ⟨ip, _, rfl⟩ := List.mem_map.mp arp
    trivial
  · split at na
    · unfold sendNeighborAdvertisements at na
      split at na
      · contradiction
      · obtain ⟨ip, _, rfl⟩ := List.mem_map.mp na
        trivial
    · contradiction

end VirtualRouter

end Failover
