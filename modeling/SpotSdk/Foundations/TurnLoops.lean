import SpotSdk.Foundations.LabelledRuns

/-!
# Loops that take turns

Each turn of a loop goes on with a new state or ends the loop with a result. A loop that
runs over a list of inputs tells after how many turns it ended, and with what; it may still
be going when the inputs are used up.
-/

namespace SpotSdk.Foundations

variable {σ τ ρ : Type*}

/-- The turns that the loop has gone on after, and its result if it has ended. -/
def takeTurns (turn : σ → τ → Except ρ σ) : σ → List τ → Nat × Option ρ
  | _, [] => (0, none)
  | s, t :: ts =>
      match turn s t with
      | .error r => (0, some r)
      | .ok s' => ((takeTurns turn s' ts).1 + 1, (takeTurns turn s' ts).2)

/-- The loop goes on after a turn. -/
def Continues (turn : σ → τ → Except ρ σ) (s : σ) (t : τ) (s' : σ) : Prop :=
  turn s t = .ok s'

variable {turn f g : σ → τ → Except ρ σ} {s u : σ} {t : τ} {ts before after : List τ} {r : ρ}

theorem takeTurns_continues {s' : σ} (continues : turn s t = .ok s') (ts : List τ) :
    takeTurns turn s (t :: ts) =
      ((takeTurns turn s' ts).1 + 1, (takeTurns turn s' ts).2) := by
  rw [takeTurns, continues]

theorem takeTurns_ends (ends : turn s t = .error r) (ts : List τ) :
    takeTurns turn s (t :: ts) = (0, some r) := by
  rw [takeTurns, ends]

/-- A turn that ends the loop after others that do not. -/
theorem takeTurns_of_run (run : Run (Continues turn) s before u) (ends : turn u t = .error r)
    (after : List τ) :
    takeTurns turn s (before ++ t :: after) = (before.length, some r) := by
  induction run with
  | nil s => exact takeTurns_ends ends after
  | cons step _ ih => rw [List.cons_append, takeTurns_continues step, ih ends, List.length_cons]

/-- No turn ends the loop. -/
theorem takeTurns_open (run : Run (Continues turn) s ts u) :
    takeTurns turn s ts = (ts.length, none) := by
  induction run with
  | nil s => rfl
  | cons step _ ih => rw [takeTurns_continues step, ih, List.length_cons]

/-- Either no turn ends the loop, or one does after others that do not. -/
theorem takeTurns_cases (turn : σ → τ → Except ρ σ) (s : σ) (ts : List τ) :
    (∃ u, Run (Continues turn) s ts u) ∨
      ∃ (before : List τ) (t : τ) (after : List τ) (u : σ) (r : ρ), ts = before ++ t :: after ∧
        Run (Continues turn) s before u ∧ turn u t = .error r := by
  induction ts generalizing s with
  | nil => exact .inl ⟨s, .nil s⟩
  | cons t ts ih =>
      cases next : turn s t with
      | error r => exact .inr ⟨[], t, ts, s, r, rfl, .nil s, next⟩
      | ok s' =>
          rcases ih s' with ⟨u, run⟩ | ⟨before, last, after, u, r, rfl, run, ends⟩
          · exact .inl ⟨u, .cons next run⟩
          · exact .inr ⟨t :: before, last, after, u, r, rfl, .cons next run, ends⟩

/-- A loop ends exactly in a turn that ends it after others that do not. -/
theorem takeTurns_eq_some_iff {n : Nat} :
    takeTurns turn s ts = (n, some r) ↔
      ∃ before t after u, ts = before ++ t :: after ∧ before.length = n ∧
        Run (Continues turn) s before u ∧ turn u t = .error r := by
  constructor
  · intro ended
    rcases takeTurns_cases turn s ts with ⟨u, run⟩ | ⟨before, t, after, u, last, rfl, run, ends⟩
    · rw [takeTurns_open run] at ended
      cases (Prod.mk.inj ended).2
    · rw [takeTurns_of_run run ends] at ended
      obtain ⟨turns, result⟩ := Prod.mk.inj ended
      obtain rfl := Option.some.inj result
      exact ⟨before, t, after, u, rfl, turns, run, ends⟩
  · rintro ⟨before, t, after, u, rfl, rfl, run, ends⟩
    exact takeTurns_of_run run ends after

/-- Two loops that go on with the same states run alike exactly if they agree on every turn
that the second one comes to. -/
theorem takeTurns_eq_iff (same : ∀ s t a b, f s t = .ok a → g s t = .ok b → a = b) (s : σ)
    (ts : List τ) :
    takeTurns f s ts = takeTurns g s ts ↔
      ∀ before t after u, ts = before ++ t :: after → Run (Continues g) s before u →
        f u t = g u t := by
  induction ts generalizing s with
  | nil =>
      constructor
      · intro _ before t after u split
        cases before <;> cases split
      · intro _
        rfl
  | cons t ts ih =>
      constructor
      · intro alike before last after u split run
        have head : f s t = g s t := by
          cases nextF : f s t with
          | error r =>
              cases nextG : g s t with
              | error r' =>
                  rw [takeTurns_ends nextF, takeTurns_ends nextG] at alike
                  exact congrArg Except.error (Option.some.inj (Prod.mk.inj alike).2)
              | ok b =>
                  rw [takeTurns_ends nextF, takeTurns_continues nextG] at alike
                  exact absurd (Prod.mk.inj alike).1 (Nat.succ_ne_zero _).symm
          | ok a =>
              cases nextG : g s t with
              | error r' =>
                  rw [takeTurns_continues nextF, takeTurns_ends nextG] at alike
                  exact absurd (Prod.mk.inj alike).1 (Nat.succ_ne_zero _)
              | ok b => rw [same s t a b nextF nextG]
        cases run with
        | nil =>
            obtain ⟨rfl, rfl⟩ := List.cons.inj split
            exact head
        | cons step tail =>
            obtain ⟨rfl, rfl⟩ := List.cons.inj split
            rw [takeTurns_continues (head.trans step), takeTurns_continues step] at alike
            obtain ⟨turns, result⟩ := Prod.mk.inj alike
            have rest := Prod.ext (Nat.succ.inj turns) result
            exact (ih _).mp rest _ last after u rfl tail
      · intro agree
        have head := agree [] t ts s rfl (.nil s)
        cases next : g s t with
        | error r => rw [takeTurns_ends next, takeTurns_ends (head.trans next)]
        | ok s' =>
            have rest : takeTurns f s' ts = takeTurns g s' ts := by
              apply (ih s').mpr
              rintro before last after u rfl run
              exact agree (t :: before) last after u rfl (.cons next run)
            rw [takeTurns_continues next, takeTurns_continues (head.trans next), rest]

end SpotSdk.Foundations
