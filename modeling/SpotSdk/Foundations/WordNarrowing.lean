import Mathlib.Algebra.Ring.Int.Defs
import Mathlib.Algebra.Ring.Nat

/-!
# Narrowing a word and widening it again

A word is cut to a smaller width and later extended by its sign. It comes back
unchanged exactly when its value as a signed number fits the smaller width.
-/

namespace SpotSdk.Foundations

variable {v w : Nat}

/-- The value the narrowed word has once it is wide again. -/
theorem toInt_widen_narrow (h : v ≤ w) (c : BitVec w) :
    ((c.setWidth v).signExtend w).toInt = c.toInt.bmod (2 ^ v) := by
  rw [BitVec.toInt_signExtend_of_le h, BitVec.toInt_setWidth, BitVec.toInt_eq_toNat_bmod,
    Int.bmod_bmod_of_dvd]
  exact Nat.pow_dvd_pow 2 h

/-- A word survives exactly when its signed value fits the smaller width. -/
theorem widen_narrow_eq_iff (hv : 0 < v) (h : v ≤ w) (c : BitVec w) :
    (c.setWidth v).signExtend w = c ↔
      -(2 : Int) ^ (v - 1) ≤ c.toInt ∧ c.toInt < 2 ^ (v - 1) := by
  obtain ⟨n, rfl⟩ : ∃ n, v = n + 1 := ⟨v - 1, by omega⟩
  rw [← BitVec.toInt_inj, toInt_widen_narrow h, Int.bmod_eq_iff (Nat.two_pow_pos _),
    Int.sub_self]
  have hpow : ((2 ^ (n + 1) : Nat) : Int) = 2 * 2 ^ n := by
    rw [Nat.pow_succ, Nat.mul_comm]
    simp
  rw [hpow, Nat.add_sub_cancel]
  generalize hb : (2 : Int) ^ n = b
  constructor
  · rintro ⟨hlow, hhigh, _⟩
    constructor <;> omega
  · rintro ⟨hlow, hhigh⟩
    refine ⟨?_, ?_, Int.dvd_zero _⟩ <;> omega

/-- Of the 64-bit words those below `2 ^ 31` and the `2 ^ 31` greatest ones survive
32 bits. -/
theorem widen_narrow_int_iff (c : BitVec 64) :
    (c.setWidth 32).signExtend 64 = c ↔
      c.toNat < 2 ^ 31 ∨ 2 ^ 64 - 2 ^ 31 ≤ c.toNat := by
  rw [widen_narrow_eq_iff (by decide) (by decide), BitVec.toInt_eq_toNat_cond]
  have hc := c.isLt
  split <;> omega

end SpotSdk.Foundations
