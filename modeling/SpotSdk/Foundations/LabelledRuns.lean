import Mathlib.Logic.Relation
import Mathlib.Data.List.Basic
import Mathlib.Data.List.Induction

/-!
# Finite runs of labelled transition relations

A run lists the labels of its steps in order. Invariants, guards and stronger
step facts are carried from one step to the whole run once, here, so that each
system only proves what a single step does.
-/

namespace SpotSdk.Foundations

variable {σ ε : Type*}

/-- A finite run of the relation `R` from a state to a state, with its labels. -/
inductive Run (R : σ → ε → σ → Prop) : σ → List ε → σ → Prop
  | nil (s : σ) : Run R s [] s
  | cons {s e t es u} (step : R s e t) (tail : Run R t es u) : Run R s (e :: es) u

/-- The transition relation of a partial step function. -/
def StepOf (step : σ → ε → Option σ) (s : σ) (e : ε) (t : σ) : Prop :=
  step s e = some t

/-- The steps of `R` whose source state and label meet a condition. -/
def Guard (R : σ → ε → σ → Prop) (cond : σ → ε → Prop) (s : σ) (e : ε) (t : σ) : Prop :=
  R s e t ∧ cond s e

/-- A label of a longer history is its last one, or one of the history before. -/
theorem split_snoc {es pre post : List ε} {e x : ε} (h : es ++ [e] = pre ++ x :: post) :
    (post = [] ∧ e = x ∧ es = pre) ∨ ∃ rest, post = rest ++ [e] ∧ es = pre ++ x :: rest := by
  induction pre generalizing es with
  | nil =>
      cases es with
      | nil =>
          obtain ⟨rfl, rfl⟩ := List.cons.inj h
          exact .inl ⟨rfl, rfl, rfl⟩
      | cons a es =>
          obtain ⟨rfl, rfl⟩ := List.cons.inj h
          exact .inr ⟨es, rfl, rfl⟩
  | cons a pre ih =>
      cases es with
      | nil => simp at h
      | cons b es =>
          obtain ⟨rfl, tail⟩ := List.cons.inj h
          rcases ih tail with ⟨rfl, rfl, rfl⟩ | ⟨rest, rfl, rfl⟩
          · exact .inl ⟨rfl, rfl, rfl⟩
          · exact .inr ⟨rest, rfl, rfl⟩

/-- Some event of a history raises, and no event after it lowers. -/
def RaisedSince (raises lowers : ε → Prop) (es : List ε) : Prop :=
  ∃ pre e post, es = pre ++ e :: post ∧ raises e ∧ ∀ x ∈ post, ¬lowers x

theorem not_raisedSince_nil {raises lowers : ε → Prop} : ¬RaisedSince raises lowers [] := by
  rintro ⟨pre, e, post, split, _⟩
  exact absurd split (by simp)

theorem raisedSince_snoc {raises lowers : ε → Prop} {es : List ε} {e : ε} :
    RaisedSince raises lowers (es ++ [e]) ↔
      raises e ∨ RaisedSince raises lowers es ∧ ¬lowers e := by
  constructor
  · rintro ⟨pre, x, post, split, raised, kept⟩
    rcases split_snoc split with ⟨_, rfl, _⟩ | ⟨rest, rfl, rfl⟩
    · exact .inl raised
    · exact .inr ⟨⟨pre, x, rest, rfl, raised, fun y member => kept y (by simp [member])⟩,
        kept e (by simp)⟩
  · rintro (raised | ⟨⟨pre, x, post, rfl, raised, kept⟩, lowered⟩)
    · exact ⟨es, e, [], rfl, raised, by simp⟩
    · refine ⟨pre, x, post ++ [e], by simp, raised, ?_⟩
      intro y member
      rcases List.mem_append.mp member with before | last
      · exact kept y before
      · rwa [List.mem_singleton.mp last]

namespace Run

variable {R R' : σ → ε → σ → Prop} {s t u : σ} {e : ε} {es fs : List ε}

theorem single (h : R s e t) : Run R s [e] t :=
  cons h (nil t)

theorem append (left : Run R s es t) (right : Run R t fs u) : Run R s (es ++ fs) u := by
  induction left with
  | nil s => exact right
  | cons step _ ih => exact cons step (ih right)

/-- A run over a concatenation passes through a middle state. -/
theorem split (run : Run R s (es ++ fs) u) : ∃ t, Run R s es t ∧ Run R t fs u := by
  induction es generalizing s with
  | nil => exact ⟨s, nil s, run⟩
  | cons e es ih =>
      cases run with
      | cons step tail =>
          obtain ⟨t, left, right⟩ := ih tail
          exact ⟨t, cons step left, right⟩

/-- What every step preserves holds at the end of the run. -/
theorem invariant {I : σ → Prop} (run : Run R s es u) (hs : I s)
    (step : ∀ {s e t}, I s → R s e t → I t) : I u := by
  induction run with
  | nil s => exact hs
  | cons h _ ih => exact ih (step hs h)

/-- The same for an invariant that also speaks of the labels so far. -/
theorem recorded {I : List ε → σ → Prop} (run : Run R s es u) (hs : I fs s)
    (step : ∀ {fs s e t}, I fs s → R s e t → I (fs ++ [e]) t) : I (fs ++ es) u := by
  induction run generalizing fs with
  | nil s => rwa [List.append_nil]
  | cons h _ ih =>
      have tail := ih (step hs h)
      rwa [List.append_assoc] at tail

/-- Under an invariant, every step may be replaced by a stronger one. -/
theorem strengthen {I : σ → Prop} (run : Run R s es u) (hs : I s)
    (step : ∀ {s e t}, I s → R s e t → I t)
    (stronger : ∀ {s e t}, I s → R s e t → R' s e t) : Run R' s es u := by
  induction run with
  | nil s => exact nil s
  | cons h _ ih => exact cons (stronger hs h) (ih (step hs h))

theorem mono (run : Run R s es u) (h : ∀ {s e t}, R s e t → R' s e t) : Run R' s es u :=
  run.strengthen (I := fun _ => True) trivial (fun _ _ => trivial) (fun _ => h)

/-- A run whose labels all meet a condition. -/
theorem guarded {cond : ε → Prop} (run : Run R s es u) (labels : ∀ e ∈ es, cond e) :
    Run (Guard R fun _ e => cond e) s es u := by
  induction run with
  | nil s => exact nil s
  | cons step _ ih =>
      obtain ⟨first, rest⟩ := List.forall_mem_cons.mp labels
      exact cons ⟨step, first⟩ (ih rest)

theorem labels_of_guard {cond : ε → Prop} (run : Run (Guard R fun _ e => cond e) s es u) :
    ∀ e ∈ es, cond e := by
  induction run with
  | nil s => simp
  | cons step _ ih => exact List.forall_mem_cons.mpr ⟨step.2, ih⟩

/-- The image of a run under a map of states that carries each step over. -/
theorem map {τ : Type*} {Q : τ → ε → τ → Prop} (f : σ → τ) (run : Run R s es u)
    (h : ∀ {s e t}, R s e t → Q (f s) e (f t)) : Run Q (f s) es (f u) := by
  induction run with
  | nil s => exact nil (f s)
  | cons step _ ih => exact cons (h step) ih

/-- A history is the history of a run exactly if every label of it is permitted after those
before it, where an invariant tells which labels are. -/
theorem exists_iff {step : σ → ε → Option σ} {I : List ε → σ → Prop}
    {permitted : List ε → ε → Prop} (start : I [] s)
    (kept : ∀ {fs s e t}, I fs s → StepOf step s e t → I (fs ++ [e]) t)
    (enabled : ∀ {fs s e}, I fs s → ((step s e).isSome = true ↔ permitted fs e)) :
    (∃ t, Run (StepOf step) s es t) ↔
      ∀ pre e post, es = pre ++ e :: post → permitted pre e := by
  have follows {fs t} (run : Run (StepOf step) s fs t) : I fs t :=
    run.recorded (I := I) start kept
  constructor
  · rintro ⟨t, run⟩ pre e post rfl
    obtain ⟨u, left, right⟩ := run.split
    cases right with
    | cons next _ =>
        have some' : (step u e).isSome = true := by
          rw [next]
          rfl
        exact (enabled (follows left)).mp some'
  · intro permits
    induction es using List.reverseRecOn with
    | nil => exact ⟨s, nil s⟩
    | append_singleton es e ih =>
        obtain ⟨t, run⟩ := ih fun pre x post split =>
          permits pre x (post ++ [e]) (by rw [split, List.append_assoc, List.cons_append])
        have possible := (enabled (follows run)).mpr (permits es e [] rfl)
        obtain ⟨u, next⟩ := Option.isSome_iff_exists.mp possible
        exact ⟨u, run.append (single next)⟩

end Run

end SpotSdk.Foundations
