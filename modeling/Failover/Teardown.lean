import Failover.Session

/-!
# What a session does to the links

A session adds links while it starts and deletes them when it is told to shut
down. Nothing in between deletes one, and `Shutdown` deletes the IPv4 mac-vlan
unless an address is left on it.
-/

namespace Failover

open Library VirtualRouter

set_option autoImplicit false

variable {env : Env} {vrouter next : VirtualRouter} {input : Input} {effects : List Effect}
  {panicked : Bool}

theorem transition_keeps_links (transition : Transition env vrouter input next effects panicked)
    (stays : ¬ Fires env vrouter input .shutdown) (name : String) :
    .deleteMacVlan name ∉ effects := by
  intro member
  have sent : ¬ (Effect.deleteMacVlan name).IsAdvertisement := id
  have acted (action : AddressAction) :
      .deleteMacVlan name ∉ vrouter.virtualAddresses action := by
    intro listed
    rcases virtual_address_of_mem listed with ⟨family, iface, _, same⟩
    contradiction
  cases transition with
  | silent => contradiction
  | neighbor _ replies => exact replies _ member
  | panics => exact sent (send_advertisement_effects _ member)
  | takesOver fires takesOver link found =>
      rcases take_over_calls member with advert | announced | added
      · exact sent (send_advertisement_effects _ advert)
      · exact announced
      · exact acted .add added
  | starts => exact acted .delete member
  | stopsInit fires => exact stays fires
  | stopsBackup fires => exact stays fires
  | stopsMaster fires => exact stays fires
  | advertises => exact sent (send_advertisement_effects _ member)
  | hearsLeaving => contradiction
  | defers => contradiction
  | preempts => cases List.mem_singleton.mp member
  | answers => exact sent (send_advertisement_effects _ member)
  | yields => cases List.mem_singleton.mp member

namespace VirtualRouter

/-- The IPv4 addresses that the router takes off its mac-vlan when it shuts down. -/
def withdrawn (vrouter : VirtualRouter) : List IpNet :=
  if vrouter.fsm.state = .master then vrouter.strIpv4Addresses else []

theorem has_after_delete_mac_vlans (vrouter : VirtualRouter) (prepared : vrouter.Prepared)
    {host : Host} {link : Link} (present : host.link vrouter.macVlanInterfaceV4 = some link) :
    (host.performAll vrouter.deleteMacVlans).Has vrouter.macVlanInterfaceV4 ↔
      link.remainingAddressCount ≠ 0 := by
  rw [deleteMacVlans, Host.perform_all_cons]
  have first : (host.perform (.deleteMacVlan vrouter.macVlanInterfaceV4)).Has
      vrouter.macVlanInterfaceV4 ↔ link.remainingAddressCount ≠ 0 := by
    rw [Host.Has, Host.link_perform, present]
    simp [Link.after]
  cases v6Link : vrouter.macVlanInterfaceV6 with
  | none => exact first
  | some v6Iface =>
      have other : .deleteMacVlan vrouter.macVlanInterfaceV4 ∉ [Effect.deleteMacVlan v6Iface] := by
        simpa using (prepared.distinct v6Iface v6Link).symm
      exact (Host.has_perform_all other).trans first

theorem link_after_delete_virtual_addresses (vrouter : VirtualRouter)
    (prepared : vrouter.Prepared) {host : Host} {link : Link}
    (present : host.link vrouter.macVlanInterfaceV4 = some link) :
    (host.performAll vrouter.deleteVirtualAddresses).link vrouter.macVlanInterfaceV4 =
      some (link.addressAction (host.promotesSecondaries vrouter.macVlanInterfaceV4) .delete
        vrouter.strIpv4Addresses) := by
  rw [deleteVirtualAddresses, virtualAddresses, Host.perform_all_cons]
  have first : (host.perform (.virtualAddressAction .delete vrouter.strIpv4Addresses
      vrouter.macVlanInterfaceV4)).link vrouter.macVlanInterfaceV4 =
        some (link.addressAction (host.promotesSecondaries vrouter.macVlanInterfaceV4) .delete
          vrouter.strIpv4Addresses) := by
    rw [Host.link_perform, present]
    simp [Link.after]
  cases v6Link : vrouter.macVlanInterfaceV6 with
  | none => exact first
  | some v6Iface =>
      simp only [Host.perform_all_cons, Host.perform_all_nil]
      rw [Host.link_perform, first]
      simp [Link.after, prepared.distinct v6Iface v6Link]

end VirtualRouter

/-- After `Shutdown` the mac-vlan is there exactly if an address that counts was on it
and does not go with those that the router withdraws. -/
theorem has_after_shutdown {inst : Instance} (sound : inst.poisoned = false)
    (prepared : inst.vrouter.Prepared) {host : Host} {link : Link}
    (present : host.link inst.vrouter.macVlanInterfaceV4 = some link) (now setAt : Instant) :
    (host.performAll (inst.step (host.env now setAt) (.notify .shutdown)).2).Has
        inst.vrouter.macVlanInterfaceV4 ↔
      ∃ net ∈ link.ips, net.isLinkLocal = false ∧
        ¬ link.Loses (host.promotesSecondaries inst.vrouter.macVlanInterfaceV4)
          inst.vrouter.withdrawn net := by
  have found : (host.env now setAt).getInterface inst.vrouter.macVlanInterfaceV4 =
      .ok (link.interface inst.vrouter.macVlanInterfaceV4) := by
    rw [Host.get_interface_env, present]
  have counted : link.remainingAddressCount ≠ 0 ↔ ∃ net ∈ link.ips, net.isLinkLocal = false := by
    rw [Ne, link.remaining_address_count_zero]
    simp
  simp only [Instance.step, sound, Bool.false_eq_true, if_false, VirtualRouter.handle, notifyMut,
    found]
  cases state : inst.vrouter.fsm.state with
  | init =>
      simp only [Handled.done, has_after_delete_mac_vlans _ prepared present, counted, withdrawn,
        state]
      simp [Link.Loses]
  | backup =>
      simp only [Handled.done, has_after_delete_mac_vlans _ prepared present, counted, withdrawn,
        state]
      simp [Link.Loses]
  | master =>
      have removed := link_after_delete_virtual_addresses _ prepared present
      have sent := host.perform_all_sent fun effect member =>
        .inl (@send_advertisement_effects inst.vrouter effect member)
      simp only [Handled.done, Host.perform_all_append, sent]
      rw [has_after_delete_mac_vlans _ prepared removed, Ne, Link.remaining_address_count_zero]
      simp only [Link.addressAction, Link.mem_delete_addresses, withdrawn, state, if_true,
        not_forall, Bool.not_eq_true, exists_prop]
      apply exists_congr
      intro net
      rw [and_assoc, and_comm (a := ¬ _)]

namespace VirtualRouter

theorem notify_found {interface : NetworkInterface}
    (found : env.getInterface vrouter.macVlanInterfaceV4 = .ok interface) (event : Event)
    (error : NetworkError) : (vrouter.notifyMut env event).result ≠ .err error := by
  have master : (vrouter.becomeMaster env interface).result ≠ .err error := by
    unfold becomeMaster
    split <;> simp [Handled.done]
  cases event with
  | startup =>
      simp only [notifyMut, found]
      split_ifs
      · exact master
      · simp [Handled.done]
      · simp [Handled.unchanged]
  | shutdown =>
      simp only [notifyMut, found]
      cases vrouter.fsm.state <;> simp [Handled.done]
  | masterDown =>
      simp only [notifyMut, found]
      split_ifs
      · exact master
      · simp [Handled.unchanged]
  | null => simp [notifyMut, found, Handled.unchanged]

end VirtualRouter

theorem Input.not_notify_of_task {version : VrrpVersion} {timer : Bool}
    (task : input.HasTask version timer = true) (event : Event) : input ≠ .notify event := by
  rintro rfl
  contradiction

namespace Instance

theorem step_keeps_links (inst : Instance) (env : Env) (input : Input)
    (stays : inst.poisoned = false → input ≠ .notify .shutdown) (name : String) :
    .deleteMacVlan name ∉ (inst.step env input).2 := by
  cases poisoned : inst.poisoned with
  | true =>
      rw [step_poisoned poisoned]
      exact List.not_mem_nil
  | false =>
      apply transition_keeps_links (step_transition poisoned env input)
      intro fires
      cases fires
      exact stays poisoned rfl

theorem step_mac_vlan_v4 (inst : Instance) (env : Env) (input : Input) :
    (inst.step env input).1.vrouter.macVlanInterfaceV4 = inst.vrouter.macVlanInterfaceV4 := by
  cases poisoned : inst.poisoned with
  | true => rw [step_poisoned poisoned]
  | false =>
      rcases transition_config (step_transition poisoned env input) with ⟨fsm, same⟩
      rw [same]
      rfl

theorem step_stays_init {inst : Instance} (unstarted : ∀ event, input ≠ .notify event)
    (env : Env) (state : inst.vrouter.fsm.state = .init) :
    (inst.step env input).1.vrouter.fsm.state = .init := by
  rcases step_simulates inst env input with ⟨signal, means, stepped⟩
  rw [stepped, state]
  by_contra left
  cases (Candidate.init_left_iff _ _).mp left
  cases means with
  | start fires =>
      cases fires
      exact unstarted .startup rfl

end Instance

namespace Session

variable {host nextHost : Host} {now setAt : Instant} {session after : Session} {move : Move}

/-- The move is not the notification of `Shutdown`, or finds it blocked. -/
def Continues (session : Session) (move : Move) : Prop :=
  move = .handle (.notify .shutdown) → ¬ session.Stoppable

theorem Continues.blocked {timer : Bool} (continues : session.Continues (.handle (.notify .shutdown)))
    (phase : session.phase = .serving timer false) : session.inst.poisoned = true := by
  by_contra sound
  apply continues rfl
  exact ⟨by rw [phase]; rfl, Bool.eq_false_of_not_eq_true sound⟩

theorem course_keeps_links (course : Course host now setAt session move nextHost after)
    (continues : session.Continues move) (name : String) (present : host.Has name) :
    nextHost.Has name := by
  cases course with
  | idle => exact present
  | ends => exact present
  | lookup => exact present
  | createV4 phase created => exact Host.has_create_mac_vlan created present
  | checkV4 => exact present
  | createV6 phase created => exact Host.has_create_mac_vlan created present
  | checkV6 => exact present
  | startup =>
      have kept := session.inst.step_keeps_links (host.env now setAt) (.notify .startup)
        (fun _ => by simp) name
      exact (Host.has_perform_all kept).mpr present
  | serves timerNext phase task =>
      have kept := session.inst.step_keeps_links (host.env now setAt) _
        (fun _ => Input.not_notify_of_task task .shutdown) name
      exact (Host.has_perform_all kept).mpr present
  | stops phase =>
      have blocked := continues.blocked phase
      have kept := session.inst.step_keeps_links (host.env now setAt) (.notify .shutdown)
        (fun sound => by simp [blocked] at sound) name
      exact (Host.has_perform_all kept).mpr present

theorem course_engaged (course : Course host now setAt session move nextHost after)
    (continues : session.Continues move)
    (linked : session.Engaged → host.Has session.inst.vrouter.macVlanInterfaceV4)
    (engaged : after.Engaged) : nextHost.Has after.inst.vrouter.macVlanInterfaceV4 := by
  have kept := course_keeps_links course continues
  cases course with
  | idle => exact linked engaged
  | ends => simp [Engaged, Phase.serves] at engaged
  | lookup => simp [Engaged, Phase.serves] at engaged
  | createV4 => simp [Engaged, Phase.serves] at engaged
  | checkV4 =>
      have serves := engaged.1
      split_ifs at serves <;> contradiction
  | createV6 => simp [Engaged, Phase.serves] at engaged
  | checkV6 => simp [Engaged, Phase.serves] at engaged
  | startup phase =>
      have serves := engaged.1
      simp only at serves
      split_ifs at serves with started
      · rw [Instance.step_mac_vlan_v4]
        apply kept
        cases found : (host.env now setAt).getInterface
            session.inst.vrouter.macVlanInterfaceV4 with
        | error error => simp [notifyMut, found, Handled.failed] at started
        | ok interface => exact Host.has_of_get_interface found
      · contradiction
  | serves timerNext phase task =>
      rw [Instance.step_mac_vlan_v4]
      apply kept
      apply linked
      refine ⟨by rw [phase]; rfl, ?_⟩
      intro state
      apply engaged.2
      exact Instance.step_stays_init (Input.not_notify_of_task task) (host.env now setAt) state
  | stops phase =>
      have blocked := continues.blocked phase
      rw [Instance.step_mac_vlan_v4]
      apply kept
      apply linked
      refine ⟨by rw [phase]; rfl, ?_⟩
      have state := engaged.2
      simp only [Instance.step_poisoned blocked] at state
      exact state

def brings (session : Session) : Move → Option Input
  | .advance =>
      match session.phase with
      | .startup => some (.notify .startup)
      | _ => none
  | .handle input =>
      match session.phase with
      | .serving timer leaving =>
          if (input = .notify .shutdown ∧ leaving = false) ∨
              input.HasTask session.inst.vrouter.version timer = true then some input
          else none
      | _ => none
  | .finish => none

theorem step_brings {input : Input} (brought : session.brings move = some input) (host : Host)
    (now setAt : Instant) :
    (session.step host now setAt move).1 =
      host.performAll (session.inst.step (host.env now setAt) input).2 := by
  cases move with
  | advance =>
      simp only [brings] at brought
      split at brought
      · rename_i phase
        cases brought
        simp [step, advance, phase]
      · contradiction
  | handle moved =>
      simp only [brings] at brought
      split at brought
      · rename_i timer leaving phase
        split_ifs at brought with task
        cases brought
        simp only [step, phase]
        split_ifs with stop served
        · rfl
        · rfl
        · exact absurd task (not_or.mpr ⟨stop, served⟩)
      · contradiction
  | finish => contradiction

theorem step_quiet (quiet : session.brings move = none) {host : Host} {name : String} {link : Link}
    (present : host.link name = some link) (now setAt : Instant) :
    (session.step host now setAt move).1.link name = some link := by
  have course := session.step_course host now setAt move
  generalize (session.step host now setAt move).1 = nextHost at course ⊢
  generalize (session.step host now setAt move).2.1 = after at course
  cases course with
  | idle => exact present
  | ends => exact present
  | lookup => exact present
  | createV4 phase created => exact (Host.create_mac_vlan_ok created).2.2 name link present
  | checkV4 => exact present
  | createV6 phase created => exact (Host.create_mac_vlan_ok created).2.2 name link present
  | checkV6 => exact present
  | startup phase => simp [brings, phase] at quiet
  | serves timerNext phase task => simp [brings, phase, task] at quiet
  | stops phase => simp [brings, phase] at quiet

theorem step_stoppable (stoppable : session.Stoppable) (host : Host) (now setAt : Instant) :
    (session.step host now setAt (.handle (.notify .shutdown))).1 =
        host.performAll (session.inst.step (host.env now setAt) (.notify .shutdown)).2 ∧
      (session.step host now setAt (.handle (.notify .shutdown))).2.1.inst =
        (session.inst.step (host.env now setAt) (.notify .shutdown)).1 := by
  have stop := stoppable.1
  unfold Phase.stoppable at stop
  split at stop
  · rename_i timer leaving phase
    have first : leaving = false := by simpa using stop
    simp only [step, phase, first]
    exact ⟨rfl, rfl⟩
  · contradiction

theorem stopped_not_engaged (stoppable : session.Stoppable) (now setAt : Instant)
    (linked : session.Engaged → host.Has session.inst.vrouter.macVlanInterfaceV4) :
    ¬ (session.step host now setAt (.handle (.notify .shutdown))).2.1.Engaged := by
  rintro ⟨_, state⟩
  rw [(session.step_stoppable stoppable host now setAt).2] at state
  simp only [Instance.step, stoppable.2, Bool.false_eq_true, if_false, VirtualRouter.handle,
    notifyMut] at state
  cases found : (host.env now setAt).getInterface session.inst.vrouter.macVlanInterfaceV4 with
  | error error =>
      simp only [found, Handled.failed] at state
      have present := linked ⟨stoppable.serves, state⟩
      rcases Host.get_interface_of_has present now setAt with ⟨interface, same⟩
      rw [found] at same
      contradiction
  | ok interface =>
      cases before : session.inst.vrouter.fsm.state <;>
        simp [found, before, Handled.done] at state

end Session

end Failover
