import Mathlib.Data.Finset.Card
import Mathlib.Order.Interval.Finset.Nat
import Mathlib.Tactic.Ring

/-!
# Signals of which not too many in a row are lost

A signal is given again within a period, at some of the ticks of a clock. Some of them
are lost, but never more than a certain number in a row. Then one of them arrives in
each stretch of one period more than may be lost.
-/

namespace Failover.Library

set_option autoImplicit false

variable {given arrives settled : ℕ → Prop}

/-- Whenever it is given, it is given again within the period. -/
def Recurs (given : ℕ → Prop) (period : ℕ) : Prop :=
  ∀ tick, given tick → ∃ later, tick < later ∧ later ≤ tick + period ∧ given later

variable [DecidablePred given]

/-- Of more than this many in a row that are settled, one has arrived. -/
def LostInRow (given arrives settled : ℕ → Prop) [DecidablePred given] (losses : ℕ) : Prop :=
  ∀ first last, settled last → losses < ((Finset.Icc first last).filter given).card →
    ∃ tick ∈ Finset.Icc first last, arrives tick

theorem Recurs.often {period : ℕ} (recurs : Recurs given period) {tick : ℕ} (now : given tick)
    (count : ℕ) :
    count ≤ ((Finset.Icc (tick + 1) (tick + count * period)).filter given).card := by
  induction count generalizing tick with
  | zero => exact Nat.zero_le _
  | succ count ih =>
      obtain ⟨later, after, soon, again⟩ := recurs tick now
      have rest := ih again
      have bound : later + count * period ≤ tick + (count + 1) * period := by
        calc later + count * period ≤ tick + period + count * period := by omega
          _ = tick + (count + 1) * period := by ring
      have within : insert later ((Finset.Icc (later + 1) (later + count * period)).filter given) ⊆
          (Finset.Icc (tick + 1) (tick + (count + 1) * period)).filter given := by
        intro other member
        simp only [Finset.mem_insert, Finset.mem_filter, Finset.mem_Icc] at member ⊢
        rcases member with rfl | ⟨range, gives⟩
        · exact ⟨by omega, again⟩
        · exact ⟨by omega, gives⟩
      calc count + 1 ≤ ((Finset.Icc (later + 1) (later + count * period)).filter given).card + 1 :=
            Nat.add_le_add_right rest 1
        _ = (insert later
              ((Finset.Icc (later + 1) (later + count * period)).filter given)).card := by
            rw [Finset.card_insert_of_notMem (by simp)]
        _ ≤ _ := Finset.card_le_card within

/-- After one that is given another one arrives, one period later for each that may be
lost and one more. -/
theorem LostInRow.arrives_again {losses period : ℕ} (lost : LostInRow given arrives settled losses)
    (recurs : Recurs given period) {tick : ℕ} (now : given tick)
    (past : settled (tick + (losses + 1) * period)) :
    ∃ later, tick < later ∧ arrives later := by
  obtain ⟨later, member, arrived⟩ := lost (tick + 1) _ past (recurs.often now (losses + 1))
  exact ⟨later, (Finset.mem_Icc.mp member).1, arrived⟩

end Failover.Library
