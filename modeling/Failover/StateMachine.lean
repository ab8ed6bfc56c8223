import Mathlib.Algebra.Order.Ring.Rat

/-!
# The election state and its timer

Times are in seconds. Every duration the daemon computes is a multiple of 1/256
with a small numerator, so `f32` holds it exactly and its conversion to
nanoseconds does not round; rationals stand for both.
-/

namespace Failover

set_option autoImplicit false

abbrev Instant := ℚ

inductive State where
  | init
  | backup
  | master
  deriving DecidableEq, Repr

inductive TimerType where
  | null
  | masterDown
  | adver
  deriving DecidableEq, Repr

structure Timer where
  tType : TimerType
  remainingTime : ℚ
  waitingFor : Option Instant
  deriving DecidableEq

inductive Event where
  | startup
  | null
  | shutdown
  | masterDown
  deriving DecidableEq, Repr

structure VirtualRouterMachine where
  timer : Timer
  state : State
  event : Event
  deriving DecidableEq

namespace VirtualRouterMachine

def default : VirtualRouterMachine where
  timer := { tType := .null, remainingTime := 0, waitingFor := none }
  state := .init
  event := .startup

/-- `now` is what `Instant::now()` returns inside the setter. -/
def setAdvertTimer (fsm : VirtualRouterMachine) (now : Instant) (duration : ℚ) :
    VirtualRouterMachine :=
  { fsm with timer :=
      { tType := .adver, remainingTime := duration, waitingFor := some (now + duration) } }

def setMasterDownTimer (fsm : VirtualRouterMachine) (now : Instant) (duration : ℚ) :
    VirtualRouterMachine :=
  { fsm with timer :=
      { tType := .masterDown, remainingTime := duration, waitingFor := some (now + duration) } }

def disableTimer (fsm : VirtualRouterMachine) : VirtualRouterMachine :=
  { fsm with timer := { tType := .null, remainingTime := 0, waitingFor := none } }

def setState (fsm : VirtualRouterMachine) (state : State) : VirtualRouterMachine :=
  { fsm with state }

def setEvent (fsm : VirtualRouterMachine) (event : Event) : VirtualRouterMachine :=
  { fsm with event }

variable (fsm : VirtualRouterMachine) (now : Instant) (duration : ℚ)

@[simp] theorem set_advert_timer_state : (fsm.setAdvertTimer now duration).state = fsm.state := rfl

@[simp] theorem set_master_down_timer_state :
    (fsm.setMasterDownTimer now duration).state = fsm.state := rfl

@[simp] theorem disable_timer_state : fsm.disableTimer.state = fsm.state := rfl

@[simp] theorem set_state_state (state : State) : (fsm.setState state).state = state := rfl

@[simp] theorem set_state_timer (state : State) : (fsm.setState state).timer = fsm.timer := rfl

@[simp] theorem set_event_state (event : Event) : (fsm.setEvent event).state = fsm.state := rfl

@[simp] theorem set_event_timer (event : Event) : (fsm.setEvent event).timer = fsm.timer := rfl

@[simp] theorem set_advert_timer_timer : (fsm.setAdvertTimer now duration).timer =
    { tType := .adver, remainingTime := duration, waitingFor := some (now + duration) } := rfl

@[simp] theorem set_master_down_timer_timer : (fsm.setMasterDownTimer now duration).timer =
    { tType := .masterDown, remainingTime := duration, waitingFor := some (now + duration) } := rfl

@[simp] theorem disable_timer_timer : fsm.disableTimer.timer =
    { tType := .null, remainingTime := 0, waitingFor := none } := rfl

end VirtualRouterMachine

end Failover
