import Failover.Host

/-!
# Links that are stacked on others

The kernel deletes with a link whatever hangs off it, and what hangs off that. A host
on which nothing hangs off certain links keeps that while mac-vlans are made on others.
-/

namespace Failover

open Library VirtualRouter

set_option autoImplicit false

namespace Host

/-- The links that hang off one of these indices. -/
def above (host : Host) (below : List Nat) : List (Σ _ : String, Link) :=
  host.links.entries.filter fun entry => entry.2.parentIndex.any fun index => index ∈ below

/-- The links above these indices go, then those above them, for so many layers. -/
def collapse (host : Host) (below : List Nat) : Nat → Host
  | 0 => host
  | layers + 1 =>
      let stacked := host.above below
      let links := stacked.foldl (fun links entry => links.erase entry.1) host.links
      collapse { host with links } (stacked.map fun entry => entry.2.index) layers

def deleted (host later : Host) : List Nat :=
  (host.links.entries.filter fun entry => ¬ later.Has entry.1).map fun entry => entry.2.index

/-- What the deletions that lead from one host to the other bring about. -/
def settle (host later : Host) : Host :=
  later.collapse (host.deleted later) later.links.entries.length

theorem collapse_bare {host : Host} {below : List Nat} (layers : Nat)
    (bare : ∀ name link, host.link name = some link →
      ∀ index ∈ below, link.parentIndex ≠ some index) : host.collapse below layers = host := by
  induction layers generalizing below with
  | zero => rfl
  | succ layers ih =>
      have nothing : host.above below = [] := by
        apply List.filter_eq_nil_iff.mpr
        rintro ⟨name, link⟩ entry hangs
        obtain ⟨index, parent, listed⟩ := (Option.any_eq_true _ _).mp hangs
        exact bare name link (AList.mem_lookup_iff.mpr entry) index (of_decide_eq_true listed) parent
      simp only [collapse, nothing, List.foldl_nil, List.map_nil]
      exact ih fun _ _ _ index member => absurd member List.not_mem_nil

/-- Nothing hangs off these links, whose indices are theirs alone, and what comes next has
an index that nothing refers to. -/
structure Layered (own : String → Prop) (host : Host) : Prop where
  index : ∀ name link, host.link name = some link → link.index < host.nextIndex
  parent : ∀ name link, host.link name = some link →
    ∀ below, link.parentIndex = some below → below < host.nextIndex
  apart : ∀ name link, own name → host.link name = some link →
    ∀ other otherLink, ¬ own other → host.link other = some otherLink →
      otherLink.index ≠ link.index
  bare : ∀ name link, own name → host.link name = some link →
    ∀ other otherLink, host.link other = some otherLink → otherLink.parentIndex ≠ some link.index

namespace Layered

variable {own : String → Prop} {host next : Host}

theorem remains (layered : host.Layered own) (indices : next.nextIndex = host.nextIndex)
    (kept : ∀ name later, next.link name = some later →
      ∃ link, host.link name = some link ∧ later.Remains link) : next.Layered own where
  index name later present := by
    obtain ⟨link, found, same⟩ := kept name later present
    rw [same, indices]
    exact layered.index name link found
  parent name later present := by
    obtain ⟨link, found, same⟩ := kept name later present
    rw [same, indices]
    exact layered.parent name link found
  apart name later named present other otherLater unnamed otherPresent := by
    obtain ⟨link, found, same⟩ := kept name later present
    obtain ⟨otherLink, otherFound, otherSame⟩ := kept other otherLater otherPresent
    rw [same, otherSame]
    exact layered.apart name link named found other otherLink unnamed otherFound
  bare name later named present other otherLater otherPresent := by
    obtain ⟨link, found, same⟩ := kept name later present
    obtain ⟨otherLink, otherFound, otherSame⟩ := kept other otherLater otherPresent
    rw [same, otherSame]
    exact layered.bare name link named found other otherLink otherFound

theorem perform_all (layered : host.Layered own) (effects : List Effect) :
    (host.performAll effects).Layered own :=
  layered.remains (host.perform_all_fixed effects).2 fun _ _ => remains_perform_all

theorem autoconfigure (layered : host.Layered own) (iface : String) (net : Ipv6Net) :
    (host.autoconfigure iface net).Layered own :=
  layered.perform_all [.virtualAddressAction .add [.v6 net] iface]

theorem lower (layered : host.Layered own) {parentIfname : String} {parent : Link}
    (found : host.link parentIfname = some parent) (unnamed : ¬ own parentIfname) :
    parent.lower < host.nextIndex ∧
      ∀ name link, own name → host.link name = some link → parent.lower ≠ link.index := by
  unfold Link.lower
  split_ifs
  · cases below : parent.parentIndex with
    | none =>
        exact ⟨layered.index _ _ found, fun name link named present =>
          layered.apart name link named present _ _ unnamed found⟩
    | some index =>
        refine ⟨layered.parent _ _ found index below, fun name link named present same => ?_⟩
        apply layered.bare name link named present _ _ found
        rw [below]
        exact congrArg some same
  · exact ⟨layered.index _ _ found, fun name link named present =>
      layered.apart name link named present _ _ unnamed found⟩

theorem create_mac_vlan (layered : host.Layered own) {parentIfname name : String} {vrid : UInt8}
    {family : AddressFamily}
    (created : host.createMacVlan parentIfname vrid family = .ok (next, name))
    (unnamed : ¬ own parentIfname) (named : own name) : next.Layered own := by
  rcases (create_mac_vlan_cases created).2 with ⟨rfl, _⟩ |
    ⟨_, parent, added, found, index, below, _, rfl⟩
  · exact layered
  obtain ⟨known, elsewhere⟩ := layered.lower found unnamed
  have later : (host.addLink name added).nextIndex = host.nextIndex + 1 := rfl
  constructor
  · intro other link present
    rw [link_add_link] at present
    split_ifs at present
    · cases present
      rw [index, later]
      exact Nat.lt_succ_self _
    · exact Nat.lt_succ_of_lt (layered.index other link present)
  · intro other link present hung under
    rw [link_add_link] at present
    split_ifs at present
    · cases present
      rw [below] at under
      cases under
      exact Nat.lt_succ_of_lt known
    · exact Nat.lt_succ_of_lt (layered.parent other link present hung under)
  · intro own link ownNamed present other otherLink otherUnnamed otherPresent
    have different : other ≠ name := by
      intro same
      subst same
      exact otherUnnamed named
    rw [link_add_link, if_neg different] at otherPresent
    rw [link_add_link] at present
    split_ifs at present
    · cases present
      rw [index]
      exact (layered.index other otherLink otherPresent).ne
    · exact layered.apart own link ownNamed present other otherLink otherUnnamed otherPresent
  · intro own link ownNamed present other otherLink otherPresent hangs
    rw [link_add_link] at present otherPresent
    split_ifs at present otherPresent
    · cases present
      cases otherPresent
      rw [below, index] at hangs
      exact known.ne (Option.some.inj hangs)
    · cases present
      rw [index] at hangs
      exact (layered.parent other otherLink otherPresent _ hangs).ne rfl
    · cases otherPresent
      rw [below] at hangs
      exact elsewhere own link ownNamed present (Option.some.inj hangs)
    · exact layered.bare own link ownNamed present other otherLink otherPresent hangs

/-- Where only such links go, and no link comes, nothing goes with them. -/
theorem settle_eq (layered : host.Layered own)
    (kept : ∀ name, ¬ own name → host.Has name → next.Has name)
    (grown : (∀ name, host.Has name → next.Has name) ∨
      ∀ name later, next.link name = some later →
        ∃ link, host.link name = some link ∧ later.Remains link) : host.settle next = next := by
  apply collapse_bare
  intro other later present below listed hangs
  obtain ⟨⟨name, link⟩, missing, rfl⟩ := List.mem_map.mp listed
  obtain ⟨entry, gone⟩ := List.mem_filter.mp missing
  have found : host.link name = some link := AList.mem_lookup_iff.mpr entry
  have lost : ¬ next.Has name := of_decide_eq_true gone
  have there : host.Has name := by simp [Has, found]
  have named : own name := by
    by_contra unnamed
    exact lost (kept name unnamed there)
  rcases grown with all | none
  · exact lost (all name there)
  · obtain ⟨before, beforeFound, same⟩ := none other later present
    rw [same] at hangs
    exact layered.bare name link named found other before beforeFound hangs

end Layered

end Host

end Failover
