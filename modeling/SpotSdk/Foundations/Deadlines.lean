import Mathlib.Data.Int.Init

/-!
# Deadlines on a clock of 64 bits

A deadline is the sum of a start and a timeout, and the sum wraps. With a timeout that is not
negative it can only wrap below the start: the wrapped deadline never comes later than the
true one, and where it wraps it has passed from the start on.
-/

namespace SpotSdk.Foundations

variable {start timeout now : Int64}

/-- The reading comes before the deadline, as numbers. -/
def Before (start timeout now : Int64) : Prop :=
  now.toInt < start.toInt + timeout.toInt

instance : Decidable (Before start timeout now) :=
  inferInstanceAs (Decidable (_ < _))

/-- The true deadline is a number of 64 bits. -/
def DeadlineFits (start timeout : Int64) : Prop :=
  start.toInt + timeout.toInt ≤ Int64.maxValue.toInt

instance : Decidable (DeadlineFits start timeout) :=
  inferInstanceAs (Decidable (_ ≤ _))

/-- The wrapped sum is the true one, or one turn of the clock below it. -/
theorem deadline_cases (start : Int64) (nonneg : 0 ≤ timeout) :
    (DeadlineFits start timeout ∧
      (start + timeout).toInt = start.toInt + timeout.toInt) ∨
    (¬ DeadlineFits start timeout ∧
      (start + timeout).toInt = start.toInt + timeout.toInt - 18446744073709551616) := by
  have max : Int64.maxValue.toInt = 9223372036854775807 := rfl
  have zero : (0 : Int64).toInt = 0 := rfl
  have startLow := Int64.le_toInt start
  have startHigh := Int64.toInt_lt start
  have timeoutHigh := Int64.toInt_lt timeout
  rw [Int64.le_iff_toInt_le, zero] at nonneg
  unfold DeadlineFits
  by_cases fits : start.toInt + timeout.toInt ≤ Int64.maxValue.toInt
  · refine .inl ⟨fits, ?_⟩
    rw [Int64.toInt_add]
    apply Int.bmod_eq_of_le <;> omega
  · refine .inr ⟨fits, ?_⟩
    rw [Int64.toInt_add, ← Int.sub_bmod_right]
    apply Int.bmod_eq_of_le <;> omega

/-- A reading before the wrapped deadline is before the true one. -/
theorem before_of_lt (nonneg : 0 ≤ timeout) (early : now < start + timeout) :
    Before start timeout now := by
  rw [Int64.lt_iff_toInt_lt] at early
  unfold Before
  rcases deadline_cases start nonneg with ⟨_, sum⟩ | ⟨_, sum⟩ <;> omega

/-- A deadline that fits is the true one. -/
theorem lt_iff_before (nonneg : 0 ≤ timeout) (fits : DeadlineFits start timeout) :
    now < start + timeout ↔ Before start timeout now := by
  rcases deadline_cases start nonneg with ⟨_, sum⟩ | ⟨overflows, _⟩
  · rw [Int64.lt_iff_toInt_lt, sum, Before]
  · exact absurd fits overflows

/-- A deadline that does not fit has passed from the start on. -/
theorem not_lt_of_overflows (nonneg : 0 ≤ timeout) (overflows : ¬ DeadlineFits start timeout)
    (since : start ≤ now) : ¬ now < start + timeout := by
  rcases deadline_cases start nonneg with ⟨fits, _⟩ | ⟨_, sum⟩
  · exact absurd fits overflows
  · have high := Int64.toInt_lt timeout
    rw [Int64.le_iff_toInt_le] at since
    rw [Int64.lt_iff_toInt_lt]
    omega

end SpotSdk.Foundations
