import Mathlib.Algebra.Order.Archimedean.Basic
import Mathlib.Algebra.Order.Floor.Ring
import Mathlib.Tactic.Linarith

/-!
# Deadlines that are looked at once per unit of time

An observer that ticks once per unit notices a deadline at its first tick after
it, up to a whole unit late. Two observers of different phases therefore notice
two deadlines in their order, whatever the phases, only when the deadlines are a
unit apart.
-/

namespace Failover.Library

set_option autoImplicit false

variable {Time : Type*} [Field Time] [LinearOrder Time]

/-- The tick of this number is the first one after the deadline. -/
structure FirstAfter (phase deadline : Time) (tick : ℕ) : Prop where
  late : deadline < phase + tick
  first : ∀ earlier < tick, phase + (earlier : Time) ≤ deadline

namespace FirstAfter

variable {phase deadline : Time} {tick : ℕ}

theorem unique {other : ℕ} (this : FirstAfter phase deadline tick)
    (that : FirstAfter phase deadline other) : tick = other := by
  rcases lt_trichotomy tick other with before | same | after
  · exact absurd this.late (not_lt.mpr (that.first tick before))
  · exact same
  · exact absurd that.late (not_lt.mpr (this.first other after))

theorem zero (late : deadline < phase) : FirstAfter phase deadline 0 :=
  ⟨by simpa using late, fun earlier below => absurd below (Nat.not_lt_zero earlier)⟩

variable [IsStrictOrderedRing Time]

theorem within (this : FirstAfter phase deadline tick) (early : phase ≤ deadline + 1) :
    phase + tick ≤ deadline + 1 := by
  cases tick with
  | zero => simpa using early
  | succ before =>
      have previous := this.first before (Nat.lt_succ_self before)
      push_cast
      linarith

theorem of_last {before : ℕ} (early : phase + before ≤ deadline)
    (late : deadline < phase + before + 1) : FirstAfter phase deadline (before + 1) := by
  constructor
  · push_cast
    linarith
  · intro earlier smaller
    have bound : (earlier : Time) ≤ before := by exact_mod_cast Nat.le_of_lt_succ smaller
    linarith

end FirstAfter

variable [IsStrictOrderedRing Time] [FloorRing Time]

theorem exists_first_after (phase deadline : Time) : ∃ tick, FirstAfter phase deadline tick := by
  rcases lt_or_ge deadline phase with late | early
  · exact ⟨0, .zero late⟩
  · refine ⟨⌊deadline - phase⌋₊ + 1, .of_last ?_ ?_⟩
    · linarith [Nat.floor_le (sub_nonneg.mpr early)]
    · linarith [Nat.lt_floor_add_one (deadline - phase)]

theorem exists_phase {start time : Time} (later : start ≤ time) :
    ∃ phase, ∃ tick : ℕ, start ≤ phase ∧ phase < start + 1 ∧ phase + tick = time := by
  refine ⟨time - ⌊time - start⌋₊, ⌊time - start⌋₊, ?_, ?_, by linarith⟩
  · linarith [Nat.floor_le (sub_nonneg.mpr later)]
  · linarith [Nat.lt_floor_add_one (time - start)]

/-- Two observers of any phases notice two deadlines in their order exactly when a
whole unit lies between them. -/
theorem noticed_in_order_iff {start left right : Time} (leftLater : start ≤ left)
    (rightLater : start ≤ right) :
    (∀ leftPhase rightPhase : Time, start ≤ leftPhase → leftPhase < start + 1 →
        start ≤ rightPhase → rightPhase < start + 1 → ∀ leftTick rightTick : ℕ,
          FirstAfter leftPhase left leftTick → FirstAfter rightPhase right rightTick →
            leftPhase + leftTick ≤ rightPhase + rightTick) ↔
      left + 1 ≤ right := by
  constructor
  · intro ordered
    by_contra close
    rw [not_le] at close
    -- One observer ticks at the left deadline itself and is a whole unit late. The
    -- other ticks just after the right one.
    have room : right < min (left + 1) (right + 1) := lt_min close (by linarith)
    rcases exists_between room with ⟨soon, after, before⟩
    rcases lt_min_iff.mp before with ⟨beforeLeft, beforeRight⟩
    rcases exists_phase leftLater with ⟨leftPhase, leftTick, leftStart, leftBound, leftTime⟩
    rcases exists_phase (rightLater.trans after.le) with
      ⟨rightPhase, rightTick, rightStart, rightBound, rightTime⟩
    have leftNotices : FirstAfter leftPhase left (leftTick + 1) :=
      .of_last leftTime.le (by linarith)
    have rightNotices : FirstAfter rightPhase right rightTick := by
      cases rightTick with
      | zero => exact .zero (by simpa [← rightTime] using after)
      | succ last =>
          push_cast at rightTime
          exact .of_last (by linarith) (by linarith)
    have order := ordered leftPhase rightPhase leftStart leftBound rightStart rightBound _ _
      leftNotices rightNotices
    push_cast at order
    linarith
  · intro apart leftPhase rightPhase _ leftBound _ _ leftTick rightTick leftNotices rightNotices
    have soon := leftNotices.within (by linarith)
    linarith [rightNotices.late]

end Failover.Library
