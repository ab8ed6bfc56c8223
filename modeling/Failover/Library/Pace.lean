import Mathlib.Algebra.Order.Field.Basic
import Mathlib.Data.Nat.Cast.Order.Ring
import Mathlib.Tactic.Linarith
import Mathlib.Tactic.Ring

/-!
# A timer that is set anew whenever it has run out

An observer looks at the timer once per unit of time. A look that finds the deadline
passed sets it anew, to an interval after that. The looks in between make the period one
interval at least and one unit more at most.
-/

namespace Failover.Library

set_option autoImplicit false

variable {Time : Type*} [Field Time] [LinearOrder Time]

/-- How many looks find the deadline passed. Each look reads the clock, and once more
when it sets the timer. -/
def fired (interval : Time) : Time → List (Time × Time) → ℕ
  | _, [] => 0
  | deadline, (now, setAt) :: rest =>
      if deadline < now then fired interval (setAt + interval) rest + 1
      else fired interval deadline rest

/-- The looks come once per unit from this time on, and each is over before the next. -/
def OnTime : Time → List (Time × Time) → Prop
  | _, [] => True
  | phase, (now, setAt) :: rest =>
      phase ≤ now ∧ now ≤ setAt ∧ setAt < phase + 1 ∧ OnTime (phase + 1) rest

instance decidableOnTime : (phase : Time) → (looks : List (Time × Time)) →
    Decidable (OnTime phase looks)
  | _, [] => inferInstanceAs (Decidable True)
  | phase, (now, setAt) :: rest =>
      have := decidableOnTime (phase + 1) rest
      inferInstanceAs (Decidable (phase ≤ now ∧ now ≤ setAt ∧ setAt < phase + 1 ∧
        OnTime (phase + 1) rest))

variable [IsStrictOrderedRing Time]

theorem fired_often {interval : ℕ} {looks : List (Time × Time)} {phase deadline : Time}
    (onTime : OnTime phase looks) {soon : ℕ} (passes : deadline < phase + soon) :
    looks.length ≤ soon + fired (interval : Time) deadline looks * (interval + 1) := by
  induction looks generalizing phase deadline soon with
  | nil => exact Nat.zero_le _
  | cons look rest ih =>
      obtain ⟨now, setAt⟩ := look
      obtain ⟨reads, inOrder, prompt, later⟩ := onTime
      rw [List.length_cons, fired]
      split_ifs with due
      · have next := @ih (phase + 1) (setAt + interval) later interval (by linarith)
        linarith
      · have ahead : phase < phase + (soon : Time) :=
          (reads.trans (not_lt.mp due)).trans_lt passes
        have positive : (0 : Time) < soon := by linarith
        obtain ⟨before, rfl⟩ := Nat.exists_eq_succ_of_ne_zero
          (Nat.pos_iff_ne_zero.mp (Nat.cast_pos.mp positive))
        push_cast at passes
        have next := @ih (phase + 1) deadline later before (by linarith)
        omega

theorem fired_seldom {interval : ℕ} {looks : List (Time × Time)} {phase deadline : Time}
    (onTime : OnTime phase looks) {early : ℕ}
    (waits : phase + interval ≤ deadline + 1 + early) :
    fired (interval : Time) deadline looks * interval ≤ looks.length + early := by
  induction looks generalizing phase deadline early with
  | nil => simp [fired]
  | cons look rest ih =>
      obtain ⟨now, setAt⟩ := look
      obtain ⟨reads, inOrder, prompt, later⟩ := onTime
      rw [List.length_cons, fired]
      split_ifs with due
      · have short : (interval : Time) < (early + 2 : ℕ) := by
          push_cast
          linarith
        have bounded := Nat.cast_lt.mp short
        have next := @ih (phase + 1) (setAt + interval) later 0 (by push_cast; linarith)
        rw [Nat.add_mul, Nat.one_mul]
        omega
      · have next := @ih (phase + 1) deadline later (early + 1) (by push_cast; linarith)
        omega

end Failover.Library
