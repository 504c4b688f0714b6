import Mathlib.Order.Lattice
import SpotSdk.Foundations.LabelledRuns

/-!
# Retries with back-off

A retry policy waits for an interval that grows from one back-off to the next, up to a
cap, and starts again after a reset. The law of a history is about the waits that come
right after a back-off; every run of a system that is paced by a policy obeys it.
-/

namespace SpotSdk.Foundations

/-- What a step does with the interval of the next retry. -/
inductive Pace
  | backOff
  | reset
  | keep
  deriving DecidableEq, Repr

/-- How the interval grows, where it starts and where it ends. -/
structure RetryPolicy (α : Type*) where
  grow : α → α
  initial : α
  cap : α

variable {σ ε α : Type*} [LinearOrder α]

/-- The interval after one that was waited for. -/
def RetryPolicy.next (policy : RetryPolicy α) (interval : α) : α :=
  min (policy.grow interval) policy.cap

/-- The retry interval before and after a step, and the interval of the next wait. -/
def RetryPolicy.Follows (policy : RetryPolicy α) : Pace → α → α → α → Prop
  | .backOff, before, after, wait => wait = before ∧ after = policy.next before
  | .reset, _, after, _ => after = policy.initial
  | .keep, before, after, _ => after = before

/-- The system keeps the interval of the next retry and that of the next wait, and changes
them as the policy says. -/
structure RetryPolicy.Paces (policy : RetryPolicy α) (R : σ → ε → σ → Prop)
    (retry wait : σ → α) (pace : ε → Pace) (waits : ε → Option α) : Prop where
  follows {s e t} : R s e t → policy.Follows (pace e) (retry s) (retry t) (wait t)
  waits {s e t w} : R s e t → waits e = some w → w = wait s ∧ pace e = .keep

/-- The law of the waits in a history. The events that may break the growth and those
after which it starts again are given apart. -/
structure RetryPolicy.Law (policy : RetryPolicy α) (backsOff breaks restarts : ε → Prop)
    (waits : ε → Option α) (es : List ε) : Prop where
  bounded {pre e f post w} : es = pre ++ e :: f :: post → backsOff e → waits f = some w →
    policy.initial ≤ w ∧ w ≤ policy.cap
  grows {pre e f mid e' f' post w w'} : es = pre ++ e :: f :: (mid ++ e' :: f' :: post) →
    backsOff e → waits f = some w → (∀ x ∈ mid, ¬backsOff x ∧ ¬breaks x) →
    backsOff e' → waits f' = some w' → w' = policy.next w
  restarted {pre r mid e f post w} : es = pre ++ r :: (mid ++ e :: f :: post) →
    restarts r → (∀ x ∈ mid, ¬backsOff x) → backsOff e → waits f = some w →
    w = policy.initial

namespace RetryPolicy

variable {policy : RetryPolicy α} {R : σ → ε → σ → Prop} {retry wait : σ → α}
  {pace : ε → Pace} {waits : ε → Option α} {s t u : σ} {e f : ε} {es : List ε} {w : α}

/-- An interval inside the bounds of the policy. -/
def Inside (policy : RetryPolicy α) (interval : α) : Prop :=
  policy.initial ≤ interval ∧ interval ≤ policy.cap

theorem Inside.next {interval : α} (h : policy.Inside interval)
    (grows : ∀ x, policy.initial ≤ x → x ≤ policy.grow x) :
    policy.Inside (policy.next interval) where
  left := le_min (le_trans h.1 (grows interval h.1)) (le_trans h.1 h.2)
  right := min_le_right _ _

namespace Paces

variable (paced : policy.Paces R retry wait pace waits)
include paced

theorem backOff (step : R s e t) (kind : pace e = .backOff) :
    wait t = retry s ∧ retry t = policy.next (retry s) := by
  have follows := paced.follows step
  rwa [kind] at follows

theorem reset (step : R s e t) (kind : pace e = .reset) : retry t = policy.initial := by
  have follows := paced.follows step
  rwa [kind] at follows

theorem keep (step : R s e t) (kind : pace e = .keep) : retry t = retry s := by
  have follows := paced.follows step
  rwa [kind] at follows

/-- The retry interval of a run never leaves the bounds. -/
theorem inside (capped : policy.initial ≤ policy.cap)
    (grows : ∀ x, policy.initial ≤ x → x ≤ policy.grow x) (run : Run R s es u)
    (start : policy.Inside (retry s)) : policy.Inside (retry u) := by
  refine run.invariant (I := fun s => policy.Inside (retry s)) start ?_
  intro s e t h step
  cases kind : pace e with
  | backOff =>
      rw [(paced.backOff step kind).2]
      exact h.next grows
  | reset =>
      rw [paced.reset step kind]
      exact ⟨le_refl _, capped⟩
  | keep => rwa [paced.keep step kind]

/-- Between events that keep it, the retry interval stays what it is. -/
theorem kept (run : Run R s es u) (keep : ∀ e ∈ es, pace e = .keep) : retry u = retry s := by
  induction run with
  | nil s => rfl
  | cons step _ ih =>
      rw [ih fun x member => keep x (List.mem_cons_of_mem _ member)]
      exact paced.keep step (keep _ List.mem_cons_self)

/-- An initial retry interval stays initial as long as nothing backs off. -/
theorem stays_initial (run : Run R s es u) (start : retry s = policy.initial)
    (calm : ∀ e ∈ es, pace e ≠ .backOff) : retry u = policy.initial := by
  induction run with
  | nil s => exact start
  | cons step _ ih =>
      apply ih _ fun x member => calm x (List.mem_cons_of_mem _ member)
      have here := calm _ List.mem_cons_self
      cases kind : pace _ with
      | backOff => exact absurd kind here
      | reset => exact paced.reset step kind
      | keep => rw [paced.keep step kind, start]

/-- The wait right after a back-off is for the retry interval before it. -/
theorem waited (run : Run R s (e :: f :: es) u) (backsOff : pace e = .backOff)
    (waiting : waits f = some w) :
    ∃ v, w = retry s ∧ retry v = policy.next w ∧ Run R v es u := by
  cases run with
  | cons step tail =>
      cases tail with
      | cons next rest =>
          obtain ⟨interval, grown⟩ := paced.backOff step backsOff
          obtain ⟨here, keep⟩ := paced.waits next waiting
          have same := here.trans interval
          refine ⟨_, same, ?_, rest⟩
          rw [paced.keep next keep, grown, same]

/-- Runs that start with the initial interval obey the law. -/
theorem law {backsOff breaks restarts : ε → Prop} (capped : policy.initial ≤ policy.cap)
    (grows : ∀ x, policy.initial ≤ x → x ≤ policy.grow x)
    (backing : ∀ e, backsOff e ↔ pace e = .backOff)
    (breaking : ∀ e, pace e = .reset → breaks e)
    (restarting : ∀ e, restarts e → pace e = .reset)
    (run : Run R s es u) (start : retry s = policy.initial) :
    policy.Law backsOff breaks restarts waits es := by
  have startInside : policy.Inside (retry s) := by
    rw [start]
    exact ⟨le_refl _, capped⟩
  refine { bounded := ?_, grows := ?_, restarted := ?_ }
  · intro pre e f post w split backs waiting
    subst split
    obtain ⟨t, before, after⟩ := run.split
    obtain ⟨_, rfl, _⟩ := paced.waited after ((backing e).mp backs) waiting
    exact paced.inside capped grows before startInside
  · intro pre e f mid e' f' post w w' split backs waiting calm backs' waiting'
    subst split
    obtain ⟨t, _, after⟩ := run.split
    obtain ⟨v, _, grown, rest⟩ := paced.waited after ((backing e).mp backs) waiting
    obtain ⟨y, between, last⟩ := rest.split
    obtain ⟨_, rfl, _⟩ := paced.waited last ((backing e').mp backs') waiting'
    rw [← grown]
    apply paced.kept between
    intro x member
    obtain ⟨noBackOff, noBreak⟩ := calm x member
    cases kind : pace x with
    | backOff => exact absurd ((backing x).mpr kind) noBackOff
    | reset => exact absurd (breaking x kind) noBreak
    | keep => rfl
  · intro pre r mid e f post w split restart calm backs waiting
    subst split
    obtain ⟨t, _, after⟩ := run.split
    cases after with
    | cons step rest =>
        obtain ⟨v, between, last⟩ := rest.split
        obtain ⟨_, rfl, _⟩ := paced.waited last ((backing e).mp backs) waiting
        apply paced.stays_initial between (paced.reset step (restarting r restart))
        intro x member kind
        exact calm x member ((backing x).mpr kind)

end Paces

end RetryPolicy

end SpotSdk.Foundations
