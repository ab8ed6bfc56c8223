import Failover.Cluster

/-!
# Advertisements of other virtual routers

A virtual router is its version and its VRID. The decoder reads both versions
over IPv4 and the checks behind it compare the VRID only, so a version 2 and a
version 3 group with one VRID hear each other.
-/

namespace Failover

open Library VirtualRouter

set_option autoImplicit false

def Input.decoded : Input → Option VrrpPacket
  | .vrrpV4 packet =>
      match VrrpPacket.decode packet.payload (.v4 packet.source) (.v4 packet.destination) with
      | .ok decoded => some decoded
      | _ => none
  | .vrrpV6 payload srcIp =>
      match VrrpPacket.decode payload (.v6 srcIp) (.v6 vrrpV6McastAddr) with
      | .ok decoded => some decoded
      | _ => none
  | _ => none

namespace VirtualRouter

/-- The input carries an advertisement of another version or VRID. -/
def Foreign (vrouter : VirtualRouter) (input : Input) : Bool :=
  match input.decoded with
  | some packet => packet.version ≠ vrouter.version ∨ packet.vrid ≠ vrouter.vrid
  | none => false

/-- An advertisement of the other version that passes every check finds the router
in Init, or finds a Master above it. -/
def OutranksForeign (env : Env) (vrouter : VirtualRouter) (input : Input) : Prop :=
  ∀ packet, vrouter.heard env input = some packet → packet.version ≠ vrouter.version →
    vrouter.fsm.state = .init ∨ vrouter.fsm.state = .master ∧ packet.priority ≠ 0 ∧
      packet.priority < vrouter.priority

instance (env : Env) (vrouter : VirtualRouter) (input : Input) :
    Decidable (vrouter.OutranksForeign env input) :=
  inferInstanceAs (Decidable (∀ packet ∈ vrouter.heard env input, _ → _))

theorem heard_decoded {env : Env} {vrouter : VirtualRouter} {input : Input} {packet : VrrpPacket}
    (hears : vrouter.heard env input = some packet) : input.decoded = some packet := by
  cases input with
  | vrrpV4 ipPacket => simp [Input.decoded, (accept_decoded (heard_v4_iff.mp hears).2).1]
  | vrrpV6 payload srcIp => simp [Input.decoded, (accept_decoded (heard_v6_iff.mp hears).2).1]
  | notify event => contradiction
  | tick => contradiction
  | arp packet => contradiction
  | ndp payload => contradiction

theorem verify_vrid {vrouter : VirtualRouter} {packet : VrrpPacket} {ttl : UInt8}
    (verified : vrouter.verifyVrrpPacket packet ttl = .ok ()) : packet.vrid = vrouter.vrid := by
  by_contra different
  simp only [verifyVrrpPacket, ne_eq, different, not_false_eq_true, if_true] at verified
  split at verified <;> contradiction

theorem heard_vrid {env : Env} {vrouter : VirtualRouter} {input : Input} {packet : VrrpPacket}
    (hears : vrouter.heard env input = some packet) : packet.vrid = vrouter.vrid := by
  cases input with
  | vrrpV4 ipPacket => exact verify_vrid (accept_decoded (heard_v4_iff.mp hears).2).2.1
  | vrrpV6 payload srcIp => exact verify_vrid (accept_decoded (heard_v6_iff.mp hears).2).2.1
  | notify event => contradiction
  | tick => contradiction
  | arp packet => contradiction
  | ndp payload => contradiction

theorem foreign_vrrp {vrouter : VirtualRouter} {input : Input}
    (foreign : vrouter.Foreign input = true) : input.IsVrrp := by
  cases input with
  | vrrpV4 packet => trivial
  | vrrpV6 payload srcIp => trivial
  | notify event => contradiction
  | tick => contradiction
  | arp packet => contradiction
  | ndp payload => contradiction

theorem heard_foreign_version {env : Env} {vrouter : VirtualRouter} {input : Input}
    {packet : VrrpPacket} (foreign : vrouter.Foreign input = true)
    (hears : vrouter.heard env input = some packet) : packet.version ≠ vrouter.version := by
  simp only [Foreign, heard_decoded hears, decide_eq_true_eq] at foreign
  exact foreign.resolve_right fun different => different (heard_vrid hears)

end VirtualRouter

theorem foreign_idle {inst : Instance} {env : Env} {input : Input}
    (foreign : inst.vrouter.Foreign input = true)
    (outranks : inst.poisoned = false → inst.vrouter.OutranksForeign env input) :
    inst.step env input = (inst, []) := by
  cases poisoned : inst.poisoned with
  | true => exact Instance.step_poisoned poisoned env input
  | false =>
      have transition := Instance.step_transition poisoned env input
      have idle : (inst.step env input).1.vrouter = inst.vrouter ∧
          (inst.step env input).2 = [] ∧ (inst.step env input).1.poisoned = false := by
        cases hears : inst.vrouter.heard env input with
        | none => exact unheard_idle transition (foreign_vrrp foreign) hears
        | some packet =>
            exact outranked_idle transition hears
              (outranks poisoned packet hears (heard_foreign_version foreign hears))
      obtain ⟨same, nothing, calm⟩ := idle
      rw [← poisoned] at calm
      exact Prod.ext (Instance.ext same calm) nothing

/-- The foreign advertisements can be deleted from a run in which each of them
that passes the checks finds the router in Init or finds a Master above it. -/
theorem foreign_adverts_inert (built : VirtualRouter) {inputs : List (Env × Input)}
    (outranks : Instance.machine.AllSteps
      (fun inst moment => built.Foreign moment.2 = true → inst.poisoned = false →
        inst.vrouter.OutranksForeign moment.1 moment.2) (Instance.new built) inputs) :
    ∀ first, first <+: inputs →
      Instance.machine.run (Instance.new built)
          (first.filter fun moment => !built.Foreign moment.2) =
        Instance.machine.run (Instance.new built) first := by
  rintro first ⟨later, rfl⟩
  have begins := ((Instance.machine.all_steps_append _ first later).mp outranks).1
  apply Instance.machine.run_filter _
  refine Instance.machine.all_steps_mono (Instance.RunOf built) ?_ ?_
    (Instance.run_of_new built) begins
  · exact fun inst moment runs _ => Instance.run_of_step runs moment.1 moment.2
  · intro inst moment runs guarded dropped
    obtain ⟨fsm, config⟩ := runs.config
    have foreign : built.Foreign moment.2 = true := by simpa using dropped
    refine foreign_idle ?_ (guarded foreign)
    rw [config]
    exact foreign

/-- A version 3 router has become Master and goes on as if it had not heard the version 2
router of its VRID. -/
theorem master_ignores_v2_advert :
    let built := Sample.router .v3 100 10
    let moments := [(Sample.env 10 0 [] [], Input.notify .startup), (Sample.env 10 10 [] [], .tick),
      (Sample.env 10 11 [] [], .vrrpV4 (Sample.router .v2 50 20).ipv4Advert),
      (Sample.env 10 12 [] [], .tick)]
    let kept := moments.filter fun moment => !built.Foreign moment.2
    kept.length = 3 ∧ (Instance.machine.after (Instance.new built) kept).vrouter.fsm.state =
        .master ∧
      Instance.machine.run (Instance.new built) kept =
        Instance.machine.run (Instance.new built) moments := by
  intro built moments kept
  refine ⟨by decide +kernel, by decide +kernel, ?_⟩
  exact @foreign_adverts_inert built moments (by decide +kernel) moments (List.prefix_refl _)

/-- A version 3 Backup that hears a version 2 router of its VRID becomes Master. -/
theorem v2_advert_promotes_v3 :
    let built := Sample.router .v3 100 10
    let moments := [(Sample.env 10 0 [] [], Input.notify .startup),
      (Sample.env 10 1 [] [], .vrrpV4 (Sample.router .v2 50 20).ipv4Advert)]
    let kept := moments.filter fun moment => !built.Foreign moment.2
    (Instance.machine.after (Instance.new built) kept).vrouter.fsm.state = .backup ∧
      (Instance.machine.after (Instance.new built) moments).vrouter.fsm.state = .master ∧
      Instance.machine.run (Instance.new built) kept ≠
        Instance.machine.run (Instance.new built) moments := by
  decide +kernel

end Failover
