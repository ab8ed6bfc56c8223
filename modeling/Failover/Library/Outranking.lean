import Failover.Library.Machine
import Mathlib.Data.Fintype.Card
import Mathlib.Order.Basic

/-!
# Members that stand down for whoever outranks them

A member of a group that hears a higher one stands no more. One that hears a lower one
goes on standing, and the eager ones stand then in any case. When everybody who stands
is heard by all the others, round after round, the lowest rank that still stands goes up
in each of them, until the highest one that contended is left.
-/

namespace Failover.Library

set_option autoImplicit false

namespace Machine

variable {State Input Output Name Rank : Type*} [LinearOrder Rank]
  (machine : Machine State Input Output) (stands : State → Name → Prop) (eager : Name → Prop)
  (rank : Name → Rank)

def Calm (state : State) (input : Input) : Prop :=
  ∀ name, stands (machine.step state input).1 name ↔ stands state name

structure Hears (state : State) (input : Input) (listener speaker : Name) : Prop where
  other : listener ≠ speaker
  decides : stands (machine.step state input).1 listener ↔
    rank speaker < rank listener ∧ (eager listener ∨ stands state listener)
  frame : ∀ name, name ≠ listener → (stands (machine.step state input).1 name ↔ stands state name)

/-- The machine next to those who have stood since the record began. -/
def noting : Machine (State × (Name → Prop)) Input Output :=
  machine.withRecord fun state input stood name =>
    stood name ∨ stands (machine.step state input).1 name

/-- Only those who have stood so far are heard, as often and in whatever order. -/
def Talk (current : State × (Name → Prop)) (inputs : List Input) : Prop :=
  (machine.noting stands).AllSteps
    (fun current input => machine.Calm stands current.1 input ∨ ∃ listener speaker,
      current.2 speaker ∧ machine.Hears stands eager rank current.1 input listener speaker)
    current inputs

/-- The members that stand at the start of the round are each heard by every other one. -/
structure Round (state : State) (inputs : List Input) : Prop where
  talk : machine.Talk stands eager rank (state, stands state) inputs
  heard : ∀ speaker listener, stands state speaker → listener ≠ speaker →
    ∃ before input rest, inputs = before ++ input :: rest ∧
      machine.Hears stands eager rank (machine.after state before) input listener speaker

def Rounds (state : State) : List (List Input) → Prop
  | [] => True
  | inputs :: rest =>
      machine.Round stands eager rank state inputs ∧ Rounds (machine.after state inputs) rest

/-- It stands, or it would upon hearing a lower one. -/
def Contends (state : State) (name : Name) : Prop :=
  eager name ∨ stands state name

/-- Nobody that contends ranks above this member. -/
def Tops (top : Name) (state : State) : Prop :=
  ∀ name, Contends stands eager state name → rank name ≤ rank top

variable {machine stands eager rank} {state : State} {inputs : List Input}

theorem noting_after (current : State × (Name → Prop)) (inputs : List Input) :
    ((machine.noting stands).after current inputs).1 = machine.after current.1 inputs :=
  machine.with_record_after _ current.1 current.2 inputs

/-- What calm steps keep and what hearing a permitted speaker keeps holds after talk
that starts among permitted speakers, when only those stand as long as it holds. -/
theorem talk_invariant (permitted : Name → Prop) (invariant : State → Prop)
    (bounded : ∀ state, invariant state → ∀ name, stands state name → permitted name)
    (calm : ∀ state input, invariant state → machine.Calm stands state input →
      invariant (machine.step state input).1)
    (hears : ∀ state input listener speaker, invariant state → permitted speaker →
      machine.Hears stands eager rank state input listener speaker →
      invariant (machine.step state input).1)
    {current : State × (Name → Prop)} (initially : invariant current.1)
    (stood : ∀ name, current.2 name → permitted name)
    (talk : machine.Talk stands eager rank current inputs) :
    invariant ((machine.noting stands).after current inputs).1 ∧
      ∀ name, ((machine.noting stands).after current inputs).2 name → permitted name := by
  apply (machine.noting stands).guarded_invariant
    (fun current => invariant current.1 ∧ ∀ name, current.2 name → permitted name) _
    ⟨initially, stood⟩ talk
  intro current input holds step
  have next : invariant (machine.step current.1 input).1 := by
    rcases step with quiet | ⟨listener, speaker, spoke, heard⟩
    · exact calm current.1 input holds.1 quiet
    · exact hears current.1 input listener speaker holds.1 (holds.2 speaker spoke) heard
  refine ⟨next, fun name noted => ?_⟩
  rcases noted with before | now
  · exact holds.2 name before
  · exact bounded _ next name now

variable {top : Name}

theorem Tops.calm (tops : Tops stands eager rank top state) {input : Input}
    (calm : machine.Calm stands state input) :
    Tops stands eager rank top (machine.step state input).1 :=
  fun name contends => tops name (contends.imp_right (calm name).mp)

theorem Tops.hears (tops : Tops stands eager rank top state) {input : Input}
    {listener speaker : Name}
    (hears : machine.Hears stands eager rank state input listener speaker) :
    Tops stands eager rank top (machine.step state input).1 := by
  intro name contends
  apply tops name
  rcases contends with keen | standing
  · exact .inl keen
  · by_cases same : name = listener
    · subst same
      exact (hears.decides.mp standing).2
    · exact .inr ((hears.frame name same).mp standing)

theorem Hears.stands_on {input : Input} {listener speaker : Name}
    (hears : machine.Hears stands eager rank state input listener speaker)
    (injective : Function.Injective rank) (lower : rank speaker ≤ rank top)
    (contends : Contends stands eager state top) (now : listener = top ∨ stands state top) :
    stands (machine.step state input).1 top := by
  by_cases same : top = listener
  · subst same
    have apart : rank speaker ≠ rank top := fun equal => hears.other (injective equal).symm
    exact hears.decides.mpr ⟨lt_of_le_of_ne lower apart, contends⟩
  · exact (hears.frame top same).mpr (now.resolve_left (Ne.symm same))

theorem Tops.talk {current : State × (Name → Prop)} (tops : Tops stands eager rank top current.1)
    (stood : ∀ name, current.2 name → rank name ≤ rank top)
    (talk : machine.Talk stands eager rank current inputs) :
    Tops stands eager rank top ((machine.noting stands).after current inputs).1 ∧
      ∀ name, ((machine.noting stands).after current inputs).2 name → rank name ≤ rank top := by
  apply talk_invariant (fun name => rank name ≤ rank top) (Tops stands eager rank top) _ _ _ tops
    stood talk
  · exact fun current holds name speaks => holds name (.inr speaks)
  · exact fun current input holds calm => holds.calm calm
  · exact fun current input listener speaker holds _ hears => holds.hears hears

theorem Round.tops (round : machine.Round stands eager rank state inputs)
    (tops : Tops stands eager rank top state) :
    Tops stands eager rank top (machine.after state inputs) := by
  have kept : Tops stands eager rank top (state, stands state).1 := tops
  rw [← noting_after (state, stands state) inputs]
  exact (kept.talk (fun name standing => tops name (.inr standing)) round.talk).1

theorem top_kept (injective : Function.Injective rank) {current : State × (Name → Prop)}
    (tops : Tops stands eager rank top current.1) (standing : stands current.1 top)
    (stood : ∀ name, current.2 name → rank name ≤ rank top)
    (talk : machine.Talk stands eager rank current inputs) :
    stands ((machine.noting stands).after current inputs).1 top := by
  apply (talk_invariant (fun name => rank name ≤ rank top)
    (fun state => Tops stands eager rank top state ∧ stands state top) _ _ _
    ⟨tops, standing⟩ stood talk).1.2
  · exact fun current holds name speaks => holds.1 name (.inr speaks)
  · exact fun current input holds calm => ⟨holds.1.calm calm, (calm top).mpr holds.2⟩
  · intro current input listener speaker holds lower hears
    refine ⟨holds.1.hears hears, ?_⟩
    exact hears.stands_on injective lower (.inr holds.2) (.inr holds.2)

theorem Round.top_stands (round : machine.Round stands eager rank state inputs)
    (injective : Function.Injective rank) (tops : Tops stands eager rank top state)
    (contends : Contends stands eager state top) (someone : ∃ speaker, stands state speaker) :
    stands (machine.after state inputs) top := by
  have below (name : Name) (standing : stands state name) : rank name ≤ rank top :=
    tops name (.inr standing)
  rw [← noting_after (state, stands state) inputs]
  rcases contends with keen | standing
  · obtain ⟨speaker, speaks⟩ := someone
    by_cases same : top = speaker
    · subst same
      exact top_kept injective tops speaks below round.talk
    -- After the first time that it hears this speaker it stands.
    obtain ⟨before, input, rest, split, hears⟩ := round.heard speaker top speaks same
    have talk := round.talk
    rw [split, Talk, (machine.noting stands).all_steps_append] at talk
    have start : Tops stands eager rank top (state, stands state).1 := tops
    obtain ⟨reached, noted⟩ := start.talk below talk.1
    rw [split, (machine.noting stands).after_append, (machine.noting stands).after_cons]
    have there : ((machine.noting stands).after (state, stands state) before).1 =
        machine.after state before := noting_after _ before
    generalize (machine.noting stands).after (state, stands state) before = current at *
    rw [← there] at hears
    have next := reached.hears hears
    apply top_kept injective next _ _ talk.2.2
    · exact hears.stands_on injective (below speaker speaks) (.inl keen) (.inl rfl)
    · intro name stood
      rcases stood with earlier | now
      · exact noted name earlier
      · exact next name (.inr now)
  · exact top_kept injective tops standing below round.talk

variable [Fintype Name] (rank)

def outranked (name : Name) : ℕ :=
  (Finset.univ.filter fun other => rank other < rank name).card

variable {rank}

theorem outranked_mono {left right : Name} (lower : rank left < rank right) :
    outranked rank left < outranked rank right := by
  apply Finset.card_lt_card
  rw [Finset.ssubset_iff_of_subset]
  · exact ⟨left, by simpa using lower, by simp⟩
  · intro name member
    simp only [Finset.mem_filter, Finset.mem_univ, true_and] at member ⊢
    exact member.trans lower

theorem outranked_lt_card (name : Name) : outranked rank name < Fintype.card Name :=
  Finset.card_lt_univ_of_notMem (x := name) (by simp)

theorem down_kept (down : Name → Prop) (count : ℕ)
    (lowest : ∀ name, name ≠ top → outranked rank name < count → down name)
    (low : ∀ name, down name → outranked rank name ≤ count)
    {current : State × (Name → Prop)} (tops : Tops stands eager rank top current.1)
    (initially : ∀ name, down name → ¬ stands current.1 name)
    (stood : ∀ name, current.2 name → name = top ∨ count ≤ outranked rank name)
    (talk : machine.Talk stands eager rank current inputs) :
    (Tops stands eager rank top ((machine.noting stands).after current inputs).1 ∧
      ∀ name, down name → ¬ stands ((machine.noting stands).after current inputs).1 name) ∧
      ∀ name, ((machine.noting stands).after current inputs).2 name →
        name = top ∨ count ≤ outranked rank name := by
  apply talk_invariant (fun name => name = top ∨ count ≤ outranked rank name)
    (fun state => Tops stands eager rank top state ∧ ∀ name, down name → ¬ stands state name)
    _ _ _ ⟨tops, initially⟩ stood talk
  · intro state holds name standing
    by_contra permitted
    rw [not_or, not_le] at permitted
    exact holds.2 name (lowest name permitted.1 permitted.2) standing
  · intro state input holds calm
    exact ⟨holds.1.calm calm, fun name isDown => mt (calm name).mp (holds.2 name isDown)⟩
  · intro state input listener speaker holds permitted hears
    refine ⟨holds.1.hears hears, ?_⟩
    intro name isDown
    by_cases same : name = listener
    · subst same
      rw [hears.decides]
      rintro ⟨lower, contends⟩
      have fewer := outranked_mono lower
      rcases permitted with rfl | above
      · exact absurd (holds.1 name contends) (not_le.mpr lower)
      · have few := low name isDown
        omega
    · exact mt (hears.frame name same).mp (holds.2 name isDown)

/-- The member that tops all stands, and none of this many lowest members does. -/
structure Cleared (stands : State → Name → Prop) (eager : Name → Prop) (rank : Name → Rank)
    (top : Name) (count : ℕ) (state : State) : Prop where
  tops : Tops stands eager rank top state
  standing : stands state top
  down : ∀ name, name ≠ top → outranked rank name < count → ¬ stands state name

theorem cleared_round {count : ℕ} (injective : Function.Injective rank)
    (round : machine.Round stands eager rank state inputs)
    (cleared : Cleared stands eager rank top count state) :
    Cleared stands eager rank top (count + 1) (machine.after state inputs) := by
  refine ⟨round.tops cleared.tops, ?_, ?_⟩
  · exact round.top_stands injective cleared.tops (.inr cleared.standing) ⟨top, cleared.standing⟩
  intro name other few
  have stood (member : Name) (standing : stands state member) :
      member = top ∨ count ≤ outranked rank member := by
    by_contra permitted
    rw [not_or, not_le] at permitted
    exact cleared.down member permitted.1 permitted.2 standing
  -- Once this member has heard the highest one, it is down with the lower ones.
  obtain ⟨before, input, rest, split, hears⟩ := round.heard top name cleared.standing other
  have talk := round.talk
  rw [split, Talk, (machine.noting stands).all_steps_append] at talk
  have earlier := down_kept (fun member => member ≠ top ∧ outranked rank member < count)
    count (fun _ differs fewer => ⟨differs, fewer⟩) (fun _ isDown => isDown.2.le) cleared.tops
    (fun member isDown => cleared.down member isDown.1 isDown.2) stood talk.1
  rw [split, ← noting_after (state, stands state), (machine.noting stands).after_append]
  have reached : ((machine.noting stands).after (state, stands state) before).1 =
      machine.after state before := noting_after _ before
  generalize (machine.noting stands).after (state, stands state) before = current at *
  rw [← reached] at hears
  have heard : ¬ stands (machine.step current.1 input).1 name := by
    rw [hears.decides]
    rintro ⟨lower, contends⟩
    exact absurd (earlier.1.1 name contends) (not_le.mpr lower)
  have next (member : Name) (isDown : (member ≠ top ∧ outranked rank member < count) ∨
      member = name) : ¬ stands (machine.step current.1 input).1 member := by
    by_cases same : member = name
    · rw [same]
      exact heard
    · exact mt (hears.frame member same).mp (earlier.1.2 member (isDown.resolve_right same))
  apply (down_kept _ count (fun _ differs fewer => .inl ⟨differs, fewer⟩) _
    (earlier.1.1.hears hears) next _ talk.2.2).1.2 name (.inr rfl)
  · intro member isDown
    rcases isDown with below | rfl
    · exact below.2.le
    · omega
  · intro member noted
    rcases noted with before | now
    · exact earlier.2 member before
    · by_contra permitted
      rw [not_or, not_le] at permitted
      exact next member (.inl permitted) now

theorem cleared_rounds {count : ℕ} (injective : Function.Injective rank)
    {rounds : List (List Input)} {state : State}
    (all : machine.Rounds stands eager rank state rounds)
    (cleared : Cleared stands eager rank top count state) :
    Cleared stands eager rank top (count + rounds.length)
      (machine.after state rounds.flatten) := by
  induction rounds generalizing state count with
  | nil => exact cleared
  | cons inputs rest ih =>
      have next := ih all.2 (cleared_round injective all.1 cleared)
      rw [List.flatten_cons, machine.after_append, List.length_cons]
      rwa [show count + (rest.length + 1) = count + 1 + rest.length by omega]

/-- As many rounds as there are members leave the highest of those that contended standing
alone, whoever stood at first. -/
theorem only_top_stands (injective : Function.Injective rank)
    (tops : Tops stands eager rank top state) (contends : Contends stands eager state top)
    {rounds : List (List Input)} (all : machine.Rounds stands eager rank state rounds)
    (someone : ∃ speaker, stands state speaker) (enough : Fintype.card Name ≤ rounds.length)
    (name : Name) : stands (machine.after state rounds.flatten) name ↔ name = top := by
  cases rounds with
  | nil =>
      have member := Fintype.card_pos_iff.mpr ⟨top⟩
      simp only [List.length_nil] at enough
      omega
  | cons inputs rest =>
      have first : Cleared stands eager rank top 0 (machine.after state inputs) :=
        ⟨all.1.tops tops, all.1.top_stands injective tops contends someone,
          fun name _ few => by omega⟩
      have last := cleared_rounds injective all.2 first
      rw [← machine.after_append, ← List.flatten_cons] at last
      constructor
      · intro standing
        by_contra other
        have apart : rank name ≠ rank top := fun same => other (injective same)
        have below := outranked_mono (lt_of_le_of_ne (last.tops name (.inr standing)) apart)
        have bound : outranked rank top < Fintype.card Name := outranked_lt_card top
        rw [List.length_cons] at enough
        exact last.down name other (by omega) standing
      · rintro rfl
        exact last.standing

end Machine

end Failover.Library
