import Mathlib.Order.Defs.LinearOrder
import Mathlib.Data.List.Basic
import Mathlib.Data.UInt

/-!
# Clocks that are sequences of counters

A clock is a list of counters of a linear order. One clock is above another when
it is greater at their first difference, and it extends another when that one is
a proper prefix of it. Both together are the strict lexicographic order, but a
clock that is above stays above under every extension of either side.
-/

namespace SpotSdk.Foundations.SequenceClock

variable {α : Type*} [LinearOrder α] {a b c p s t : List α}

/-- The first difference of the two clocks is in favour of the first one. -/
inductive Above : List α → List α → Prop
  | head {x y : α} {s t : List α} (h : y < x) : Above (x :: s) (y :: t)
  | tail {x : α} {s t : List α} (h : Above s t) : Above (x :: s) (x :: t)

/-- The first clock continues the second one by at least one counter. -/
def Extends (a b : List α) : Prop :=
  b <+: a ∧ b.length < a.length

/-- The strict lexicographic order, the later clock first. -/
def Later (a b : List α) : Prop :=
  Above a b ∨ Extends a b

theorem above_cons_iff {x y : α} :
    Above (x :: s) (y :: t) ↔ y < x ∨ (x = y ∧ Above s t) := by
  constructor
  · intro h
    cases h with
    | head h => exact Or.inl h
    | tail h => exact Or.inr ⟨rfl, h⟩
  · rintro (h | ⟨rfl, h⟩)
    · exact Above.head h
    · exact Above.tail h

@[simp] theorem not_above_nil_left : ¬ Above [] b := fun h => nomatch h

@[simp] theorem not_above_nil_right : ¬ Above a [] := fun h => nomatch h

/-- Extending either clock does not change who is ahead. -/
theorem Above.append (h : Above a b) (s t : List α) : Above (a ++ s) (b ++ t) := by
  induction h with
  | head h => exact Above.head h
  | tail _ ih => exact Above.tail ih

theorem Above.of_isPrefix (h : Above a b) {a' b' : List α} (ha : a <+: a') (hb : b <+: b') :
    Above a' b' := by
  obtain ⟨s, rfl⟩ := ha
  obtain ⟨t, rfl⟩ := hb
  exact h.append s t

theorem Above.asymm (h : Above a b) : ¬ Above b a := by
  induction h with
  | head h =>
      rw [above_cons_iff]
      rintro (hlt | ⟨rfl, _⟩)
      · exact lt_asymm h hlt
      · exact lt_irrefl _ h
  | tail _ ih =>
      rw [above_cons_iff]
      rintro (hlt | ⟨_, h⟩)
      · exact lt_irrefl _ hlt
      · exact ih h

theorem not_above_self (a : List α) : ¬ Above a a :=
  fun h => h.asymm h

/-- Clocks one of which is a prefix of the other have no difference. -/
theorem not_above_of_isPrefix (h : a <+: b) : ¬ Above a b := by
  obtain ⟨t, rfl⟩ := h
  intro habove
  exact not_above_self (a ++ t) (habove.of_isPrefix (List.prefix_append a t) (List.prefix_refl _))

theorem not_above_of_isPrefix' (h : b <+: a) : ¬ Above a b := by
  obtain ⟨t, rfl⟩ := h
  intro habove
  exact not_above_self (b ++ t) (habove.of_isPrefix (List.prefix_refl _) (List.prefix_append b t))

theorem Above.trans (hab : Above a b) (hbc : Above b c) : Above a c := by
  induction hab generalizing c with
  | head h =>
      cases hbc with
      | head h' => exact Above.head (lt_trans h' h)
      | tail _ => exact Above.head h
  | tail _ ih =>
      cases hbc with
      | head h' => exact Above.head h'
      | tail h' => exact Above.tail (ih h')

/-- Without a difference one of two clocks is a prefix of the other. -/
theorem isPrefix_or_isPrefix (hab : ¬ Above a b) (hba : ¬ Above b a) : a <+: b ∨ b <+: a := by
  induction a generalizing b with
  | nil => exact Or.inl List.nil_prefix
  | cons x s ih =>
      cases b with
      | nil => exact Or.inr List.nil_prefix
      | cons y t =>
          rw [above_cons_iff, not_or] at hab hba
          have hxy : x = y := le_antisymm (not_lt.mp hab.1) (not_lt.mp hba.1)
          subst hxy
          have hst : ¬ Above s t := fun h => hab.2 ⟨rfl, h⟩
          have hts : ¬ Above t s := fun h => hba.2 ⟨rfl, h⟩
          simpa only [List.prefix_cons_inj] using ih hst hts

omit [LinearOrder α] in
theorem Extends.trans (hab : Extends a b) (hbc : Extends b c) : Extends a c :=
  ⟨hbc.1.trans hab.1, lt_trans hbc.2 hab.2⟩

theorem Later.trans (hab : Later a b) (hbc : Later b c) : Later a c := by
  rcases hab with hab | hab <;> rcases hbc with hbc | hbc
  · exact Or.inl (hab.trans hbc)
  · -- The common prefix decides: either the difference lies in `c`, or `a` goes on after it.
    by_cases hac : Above a c
    · exact Or.inl hac
    · have hca : ¬ Above c a := fun h =>
        hab.asymm (h.of_isPrefix hbc.1 (List.prefix_refl a))
      rcases isPrefix_or_isPrefix hac hca with h | h
      · exact absurd hab (not_above_of_isPrefix (h.trans hbc.1))
      · refine Or.inr ⟨h, lt_of_le_of_ne h.length_le fun hlen => ?_⟩
        have heq : c = a := h.eq_of_length hlen
        exact not_above_of_isPrefix (heq ▸ hbc.1) hab
  · exact Or.inl (hbc.of_isPrefix hab.1 (List.prefix_refl c))
  · exact Or.inr (hab.trans hbc)

theorem Above.lex (h : Above a b) : List.Lex (· < ·) b a := by
  induction h with
  | head h => exact List.Lex.rel h
  | tail _ ih => exact List.Lex.cons ih

theorem Extends.lex (h : Extends a b) : List.Lex (· < ·) b a := by
  obtain ⟨⟨rest, rfl⟩, hlen⟩ := h
  induction b with
  | nil =>
      cases rest with
      | nil => exact absurd hlen (lt_irrefl _)
      | cons x rest => exact List.Lex.nil
  | cons x b ih =>
      apply List.Lex.cons
      apply ih
      exact Nat.lt_of_succ_lt_succ hlen

/-- The later clock is the greater one in the lexicographic order. -/
theorem later_iff_lex : Later a b ↔ List.Lex (· < ·) b a := by
  constructor
  · rintro (h | h)
    · exact h.lex
    · exact h.lex
  · intro h
    induction h with
    | nil => exact Or.inr ⟨List.nil_prefix, by simp⟩
    | cons _ ih =>
        rcases ih with h | h
        · exact Or.inl (Above.tail h)
        · exact Or.inr ⟨(List.prefix_cons_inj _).mpr h.1, by simpa using h.2⟩
    | rel h => exact Or.inl (Above.head h)

theorem not_later_self (a : List α) : ¬ Later a a := by
  rintro (h | h)
  · exact not_above_self a h
  · exact lt_irrefl _ h.2

/-- Two clocks are equal or one of them is later. -/
theorem later_trichotomy (a b : List α) : Later a b ∨ a = b ∨ Later b a := by
  by_cases hab : Above a b
  · exact Or.inl (Or.inl hab)
  by_cases hba : Above b a
  · exact Or.inr (Or.inr (Or.inl hba))
  rcases isPrefix_or_isPrefix hab hba with h | h
  · rcases lt_or_eq_of_le h.length_le with hlt | heq
    · exact Or.inr (Or.inr (Or.inr ⟨h, hlt⟩))
    · exact Or.inr (Or.inl (h.eq_of_length heq))
  · rcases lt_or_eq_of_le h.length_le with hlt | heq
    · exact Or.inl (Or.inr ⟨h, hlt⟩)
    · exact Or.inr (Or.inl (h.eq_of_length heq).symm)

/-- A greater last counter puts a clock above. -/
theorem above_of_last_lt {x y : α} (h : y < x) : Above (p ++ [x]) (p ++ [y]) := by
  induction p with
  | nil => exact Above.head h
  | cons z p ih => exact Above.tail ih

end SpotSdk.Foundations.SequenceClock

namespace SpotSdk.Foundations

/-- Unsigned 32-bit words in their numeric order. -/
instance instLinearOrderUInt32 : LinearOrder UInt32 where
  le_refl := UInt32.le_refl
  le_trans _ _ _ := UInt32.le_trans
  le_antisymm _ _ := UInt32.le_antisymm
  le_total := UInt32.le_total
  lt_iff_le_not_ge a b := by
    rw [UInt32.not_le]
    exact ⟨fun h => ⟨UInt32.le_of_lt h, h⟩, And.right⟩
  toDecidableLE := inferInstance
  toDecidableLT := inferInstance
  toDecidableEq := inferInstance

/-- The word whose successor is zero. -/
def maxWord : UInt32 := 0xFFFFFFFF

theorem toNat_lt_of_ne_max {n : UInt32} (h : n ≠ maxWord) : n.toNat + 1 < 2 ^ 32 := by
  have hn := n.toNat_lt
  have hne : n.toNat ≠ maxWord.toNat := fun heq => h (UInt32.toNat_inj.mp heq)
  have hmax : maxWord.toNat = 2 ^ 32 - 1 := rfl
  omega

theorem toNat_succ {n : UInt32} (h : n ≠ maxWord) : (n + 1).toNat = n.toNat + 1 := by
  rw [UInt32.toNat_add]
  exact Nat.mod_eq_of_lt (toNat_lt_of_ne_max h)

/-- Only the greatest word has no greater successor. -/
theorem lt_succ_iff_ne_max (n : UInt32) : n < n + 1 ↔ n ≠ maxWord := by
  constructor
  · rintro h rfl
    exact absurd h (by decide)
  · intro h
    rw [UInt32.lt_iff_toNat_lt, toNat_succ h]
    omega

end SpotSdk.Foundations
