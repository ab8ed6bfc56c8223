import Failover.Handlers
import Failover.Library.Machine

/-!
# One instance as a machine

Every task of an instance locks the same mutex, so an instance is a machine that
handles one input at a time. A panic under the lock poisons it, and a poisoned
lock makes every later handler give up without effect.
-/

namespace Failover

open Library

set_option autoImplicit false

namespace VirtualRouter

/-- One iteration of `timer_process`. -/
def timerTick (env : Env) (vrouter : VirtualRouter) : Handled :=
  match vrouter.fsm.timer.tType with
  | .masterDown =>
      match vrouter.fsm.timer.waitingFor with
      | some waiting =>
          if waiting < env.now then vrouter.notifyMut env .masterDown else .unchanged vrouter
      | none => .unchanged vrouter
  | .adver =>
      match vrouter.fsm.timer.waitingFor with
      | some waiting =>
          if waiting < env.now then .done
            (vrouter.withFsm (vrouter.fsm.setAdvertTimer env.setAt vrouter.advertInterval.toNat))
            vrouter.sendAdvertisement
          else .unchanged vrouter
      | none => .unchanged vrouter
  | .null => .unchanged vrouter

end VirtualRouter

inductive Input where
  | notify (event : Event)
  | tick
  | vrrpV4 (packet : Ipv4Packet)
  | vrrpV6 (payload : List UInt8) (srcIp : Ipv6Addr)
  | arp (packet : EthernetPacket)
  | ndp (payload : List UInt8)
  deriving DecidableEq, Repr

def VirtualRouter.handle (env : Env) (vrouter : VirtualRouter) : Input → Handled
  | .notify event => vrouter.notifyMut env event
  | .tick => vrouter.timerTick env
  | .vrrpV4 packet => vrouter.handleIncomingVrrpV4Pkt env packet
  | .vrrpV6 payload srcIp => vrouter.handleIncomingVrrpV6Pkt env payload srcIp
  | .arp packet => vrouter.handleIncomingArpPkt env packet
  | .ndp payload => vrouter.handleIncomingNdpPkt env payload

/-- `Arc<Mutex<VirtualRouter>>`. -/
@[ext] structure Instance where
  vrouter : VirtualRouter
  poisoned : Bool
  deriving DecidableEq

namespace Instance

def new (vrouter : VirtualRouter) : Instance where
  vrouter
  poisoned := false

def step (inst : Instance) (env : Env) (input : Input) : Instance × List Effect :=
  if inst.poisoned then (inst, [])
  else
    let handled := inst.vrouter.handle env input
    ({ vrouter := handled.vrouter, poisoned := handled.panics }, handled.effects)

/-- An input arrives together with what the host shows while it is handled. -/
def machine : Machine Instance (Env × Input) Effect where
  step inst moment := inst.step moment.1 moment.2

end Instance

end Failover
