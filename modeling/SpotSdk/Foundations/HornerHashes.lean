import Mathlib.Algebra.Ring.Hom.Defs
import Mathlib.Data.List.Induction
import Mathlib.Tactic.Ring

/-!
# Hashes by Horner's rule

A list of values is hashed by multiplying by a base and adding the next value. Over a
commutative ring in which the base is a unit, a common end can be cancelled, and between
lists of one length a common start as well. Over the natural numbers, where nothing wraps
around, a list whose values lie in a window of the size of the base is determined by its
hash.
-/

namespace SpotSdk.Foundations

variable {R : Type*} [CommSemiring R]

/-- The hash of a list from a seed. -/
def hornerHash (base seed : R) (xs : List R) : R :=
  xs.foldl (fun hash x => hash * base + x) seed

@[simp] theorem hornerHash_nil (base seed : R) : hornerHash base seed [] = seed := rfl

theorem hornerHash_append (base seed : R) (xs ys : List R) :
    hornerHash base seed (xs ++ ys) = hornerHash base (hornerHash base seed xs) ys :=
  List.foldl_append

theorem hornerHash_snoc (base seed : R) (xs : List R) (x : R) :
    hornerHash base seed (xs ++ [x]) = hornerHash base seed xs * base + x := by
  rw [hornerHash_append]
  rfl

/-- The seed contributes with the power of the length. -/
theorem hornerHash_eq (base seed : R) (xs : List R) :
    hornerHash base seed xs = seed * base ^ xs.length + hornerHash base 0 xs := by
  induction xs using List.reverseRecOn with
  | nil => simp
  | append_singleton xs x ih =>
      rw [hornerHash_snoc, hornerHash_snoc, ih, List.length_append, List.length_singleton,
        pow_succ]
      ring

/-- A hash commutes with what keeps sums and products. -/
theorem map_hornerHash {S : Type*} [CommSemiring S] (f : R →+* S) (base seed : R) (xs : List R) :
    f (hornerHash base seed xs) = hornerHash (f base) (f seed) (xs.map f) := by
  induction xs using List.reverseRecOn with
  | nil => rfl
  | append_singleton xs x ih =>
      rw [hornerHash_snoc, map_add, map_mul, ih, List.map_append, List.map_singleton,
        hornerHash_snoc]

section Cancel

variable {R : Type*} [CommRing R] {base s t : R} {xs ys : List R}

/-- The seed can be cancelled where the base is a unit. -/
theorem hornerHash_seed_inj (unit : IsUnit base) :
    hornerHash base s xs = hornerHash base t xs ↔ s = t := by
  rw [hornerHash_eq base s, hornerHash_eq base t, add_left_inj]
  exact (unit.pow xs.length).mul_left_inj

/-- Lists of one length differ by the same amount from every seed. -/
theorem hornerHash_congr_seed (same : xs.length = ys.length) :
    hornerHash base s xs = hornerHash base s ys ↔
      hornerHash base t xs = hornerHash base t ys := by
  rw [hornerHash_eq base s xs, hornerHash_eq base s ys, hornerHash_eq base t xs,
    hornerHash_eq base t ys, same, add_right_inj, add_right_inj]

end Cancel

section Windows

variable {base seed low : Nat} {xs ys : List Nat}

theorem seed_le_hornerHash (positive : 0 < base) :
    seed ≤ hornerHash base seed xs := by
  rw [hornerHash_eq]
  have power : 0 < base ^ xs.length := Nat.pow_pos positive
  have grown : seed * 1 ≤ seed * base ^ xs.length := Nat.mul_le_mul_left seed power
  omega

/-- A longer list has a greater hash than the seed. -/
theorem seed_lt_hornerHash_snoc (large : 1 < base) (seeded : 0 < seed) (x : Nat) :
    seed < hornerHash base seed (xs ++ [x]) := by
  rw [hornerHash_snoc]
  have start : seed ≤ hornerHash base seed xs := seed_le_hornerHash (by omega)
  have grown : hornerHash base seed xs * 2 ≤ hornerHash base seed xs * base :=
    Nat.mul_le_mul_left _ large
  omega

/-- Values in one window of the size of the base can be read off the hash, the last first. -/
theorem hornerHash_injective (large : 1 < base) (seeded : 0 < seed)
    (hx : ∀ x ∈ xs, low ≤ x ∧ x < low + base) (hy : ∀ y ∈ ys, low ≤ y ∧ y < low + base)
    (same : hornerHash base seed xs = hornerHash base seed ys) : xs = ys := by
  induction xs using List.reverseRecOn generalizing ys with
  | nil =>
      cases ys using List.reverseRecOn with
      | nil => rfl
      | append_singleton ys y =>
          have greater : seed < hornerHash base seed (ys ++ [y]) :=
            seed_lt_hornerHash_snoc large seeded y
          rw [← same, hornerHash_nil] at greater
          exact absurd greater (Nat.lt_irrefl seed)
  | append_singleton xs x ih =>
      cases ys using List.reverseRecOn with
      | nil =>
          have greater : seed < hornerHash base seed (xs ++ [x]) :=
            seed_lt_hornerHash_snoc large seeded x
          rw [same, hornerHash_nil] at greater
          exact absurd greater (Nat.lt_irrefl seed)
      | append_singleton ys y =>
          obtain ⟨xLow, xHigh⟩ := hx x (by simp)
          obtain ⟨yLow, yHigh⟩ := hy y (by simp)
          rw [hornerHash_snoc, hornerHash_snoc] at same
          -- The hashes before the last values are the quotients, once the window starts at 0.
          have shifted : base * hornerHash base seed xs + (x - low) =
              base * hornerHash base seed ys + (y - low) := by
            rw [Nat.mul_comm base, Nat.mul_comm base]
            omega
          have quotient : hornerHash base seed xs = hornerHash base seed ys := by
            have divided := congrArg (· / base) shifted
            simpa [Nat.mul_add_div (by omega : 0 < base),
              Nat.div_eq_of_lt (by omega : x - low < base),
              Nat.div_eq_of_lt (by omega : y - low < base)] using divided
          have last : x = y := by
            rw [quotient] at shifted
            omega
          have front : xs = ys := ih (fun z member => hx z (by simp [member]))
            (fun z member => hy z (by simp [member])) quotient
          rw [front, last]

/-- How large a hash of bounded values gets. -/
theorem hornerHash_add_le {high k : Nat} (fits : high + k ≤ k * base) (hx : ∀ x ∈ xs, x ≤ high) :
    hornerHash base seed xs + k ≤ (seed + k) * base ^ xs.length := by
  induction xs using List.reverseRecOn with
  | nil => simp
  | append_singleton xs x ih =>
      have before := ih fun z member => hx z (by simp [member])
      have small := hx x (by simp)
      rw [hornerHash_snoc, List.length_append, List.length_singleton, pow_succ, ← mul_assoc]
      calc hornerHash base seed xs * base + x + k
        _ ≤ hornerHash base seed xs * base + k * base := by omega
        _ = (hornerHash base seed xs + k) * base := (Nat.add_mul ..).symm
        _ ≤ (seed + k) * base ^ xs.length * base := Nat.mul_le_mul_right base before

end Windows

end SpotSdk.Foundations
