import SpotSdk.Foundations.LabelledRuns

/-!
# Labels that a measure bounds

A label that only ever comes with a decrease of a measure comes at most as often as the
measure allows, in every run.
-/

namespace SpotSdk.Foundations

variable {σ ε : Type*}

/-- Under an invariant, every step pays for a counted label with the measure. -/
structure Pays (R : σ → ε → σ → Prop) (I : σ → Prop) (p : ε → Bool) (measure : σ → Nat) :
    Prop where
  keeps : ∀ {s e t}, I s → R s e t → I t
  pays : ∀ {s e t}, I s → R s e t → (p e).toNat + measure t ≤ measure s

namespace Pays

variable {R : σ → ε → σ → Prop} {I : σ → Prop} {p : ε → Bool} {measure : σ → Nat}
  {s u : σ} {es : List ε}

/-- What the labels of a run cost is gone from the measure at its end. -/
theorem countP_add_le (pays : Pays R I p measure) (run : Run R s es u) (start : I s) :
    es.countP p + measure u ≤ measure s := by
  induction run with
  | nil s => simp
  | @cons s e t es u step _ ih =>
      have rest := ih (pays.keeps start step)
      have paid := pays.pays start step
      cases counted : p e with
      | true =>
          rw [List.countP_cons_of_pos counted]
          rw [counted, Bool.toNat_true] at paid
          omega
      | false =>
          rw [List.countP_cons_of_neg (Bool.eq_false_iff.mp counted)]
          omega

theorem countP_le (pays : Pays R I p measure) (run : Run R s es u) (start : I s) :
    es.countP p ≤ measure s :=
  Nat.le_of_add_right_le (pays.countP_add_le run start)

end Pays

end SpotSdk.Foundations
