import SpotSdk.Foundations.SpacedCalls

/-!
# The rate limiter

`RateLimiter` accepts a call unless less than a minimum time has passed since the last one
it accepted. Before the first call it takes time 0 for the last accepted one.
-/

namespace SpotSdk.Common

open Foundations

/-- The members of `RateLimiter`, in nanoseconds. -/
structure RateLimiter where
  deltaTime : Int64
  lastTime : Int64 := 0
  deriving DecidableEq, Repr

namespace RateLimiter

/-- `CheckRateLimit(now_nsec)`, to which the other overloads pass a reading of a clock. -/
def checkRateLimit (limiter : RateLimiter) (now : Int64) : Bool × RateLimiter :=
  if now - limiter.lastTime < limiter.deltaTime then (false, limiter)
  else (true, { limiter with lastTime := now })

/-- The answers to a sequence of calls. -/
def answers : RateLimiter → List Int64 → List (Int64 × Bool)
  | _, [] => []
  | limiter, now :: times =>
      (now, (limiter.checkRateLimit now).1) :: (limiter.checkRateLimit now).2.answers times

/-- At least `deltaTime` has passed from one time to the next. -/
def FarEnough (deltaTime last now : Int64) : Prop :=
  deltaTime.toInt ≤ now.toInt - last.toInt

/-- What the limiter promises: the first call is accepted, and a later one exactly if at
least `deltaTime` has passed since the last accepted call; so any two accepted calls are at
least `deltaTime` apart. -/
structure Limits (deltaTime : Int64) (calls : List (Int64 × Bool)) : Prop where
  spaced : Spaced (FarEnough deltaTime) none calls
  apart : (acceptedCalls calls).Pairwise (FarEnough deltaTime)

variable {limiter : RateLimiter} {deltaTime now : Int64} {times : List Int64}

theorem answers_fst (limiter : RateLimiter) (times : List Int64) :
    (limiter.answers times).map Prod.fst = times := by
  induction times generalizing limiter with
  | nil => rfl
  | cons now times ih => rw [answers, List.map_cons, ih]

/-- Between two times that are not negative the difference does not overflow. -/
theorem checkRateLimit_iff (last : 0 ≤ limiter.lastTime.toInt) (later : 0 ≤ now.toInt) :
    (limiter.checkRateLimit now).1 = true ↔
      FarEnough limiter.deltaTime limiter.lastTime now := by
  have lastBelow := Int64.toInt_lt limiter.lastTime
  have nowBelow := Int64.toInt_lt now
  have gap : (now - limiter.lastTime).toInt = now.toInt - limiter.lastTime.toInt := by
    rw [Int64.toInt_sub]
    apply Int.bmod_eq_of_le <;> omega
  rw [FarEnough, checkRateLimit, ← gap, ← Int.not_lt, ← Int64.lt_iff_toInt_lt]
  by_cases soon : now - limiter.lastTime < limiter.deltaTime
  · simp [soon]
  · simp [soon]

/-- A limiter keeps its time, and remembers the calls it accepts. -/
theorem checkRateLimit_next (limiter : RateLimiter) (now : Int64) :
    (limiter.checkRateLimit now).2 = { limiter with
      lastTime := if (limiter.checkRateLimit now).1 then now else limiter.lastTime } := by
  by_cases soon : now - limiter.lastTime < limiter.deltaTime
  · simp [checkRateLimit, soon]
  · simp [checkRateLimit, soon]

/-- A limiter that has accepted a call spaces the calls after it. -/
theorem answers_spaced (limiter : RateLimiter) (last : 0 ≤ limiter.lastTime.toInt)
    (nonneg : ∀ now ∈ times, 0 ≤ now.toInt) :
    Spaced (FarEnough limiter.deltaTime) (some limiter.lastTime) (limiter.answers times) := by
  induction times generalizing limiter with
  | nil => exact spaced_nil _
  | cons now times ih =>
      have here := nonneg now List.mem_cons_self
      have rest := fun later member => nonneg later (List.mem_cons_of_mem now member)
      rw [answers, spaced_cons]
      constructor
      · rw [checkRateLimit_iff last here]
        constructor
        · rintro far _ ⟨⟩
          exact far
        · intro far
          exact far _ rfl
      · have next := ih (limiter.checkRateLimit now).2
        rw [checkRateLimit_next] at next ⊢
        generalize (limiter.checkRateLimit now).1 = answer at next ⊢
        cases answer with
        | false => exact next last rest
        | true => exact next here rest

/-- What is far enough from a time stays so. -/
theorem FarEnough.mono {last later : Int64} (h : FarEnough deltaTime last now)
    (order : now.toInt ≤ later.toInt) : FarEnough deltaTime last later := by
  rw [FarEnough] at *
  omega

/-- A new limiter accepts the first call if it is no less than `deltaTime` after time 0. -/
theorem checkRateLimit_first (deltaTime : Int64) (first : 0 ≤ now.toInt) :
    (checkRateLimit ⟨deltaTime, 0⟩ now).1 = true ↔ deltaTime.toInt ≤ now.toInt := by
  calc
    (checkRateLimit ⟨deltaTime, 0⟩ now).1 = true ↔ FarEnough deltaTime 0 now :=
      checkRateLimit_iff (Int.le_refl 0) first
    _ ↔ deltaTime.toInt ≤ now.toInt := by rw [FarEnough, Int64.toInt_zero, Int.sub_zero]

/-- A new limiter keeps its promise on times in order exactly if the first of them is no
less than `deltaTime`. -/
theorem limits_iff (nonneg : ∀ now ∈ times, 0 ≤ now.toInt)
    (sorted : times.Pairwise (fun a b => a.toInt ≤ b.toInt)) :
    Limits deltaTime (answers ⟨deltaTime, 0⟩ times) ↔
      ∀ first, times.head? = some first → deltaTime.toInt ≤ first.toInt := by
  cases times with
  | nil =>
      constructor
      · rintro _ _ ⟨⟩
      · intro _
        exact ⟨spaced_nil none, List.Pairwise.nil⟩
  | cons first times =>
      have here := nonneg first List.mem_cons_self
      have rest := fun later member => nonneg later (List.mem_cons_of_mem first member)
      have accepts := checkRateLimit_first deltaTime here
      constructor
      · rintro limits _ ⟨⟩
        have answered := (spaced_cons.mp limits.spaced).1
        exact accepts.mp (answered.mpr (by rintro _ ⟨⟩))
      · intro late
        have accepted := accepts.mpr (late first rfl)
        have spaced : Spaced (FarEnough deltaTime) none
            (answers ⟨deltaTime, 0⟩ (first :: times)) := by
          rw [answers, spaced_cons, checkRateLimit_next, accepted]
          constructor
          · exact ⟨fun _ => by rintro _ ⟨⟩, fun _ => rfl⟩
          · exact answers_spaced ⟨deltaTime, first⟩ here rest
        refine ⟨spaced, ?_⟩
        rw [← answers_fst ⟨deltaTime, 0⟩ (first :: times)] at sorted
        exact (spaced.pairwise sorted fun far order => far.mono order).1

/-- A job that is done once a second, on a clock that starts after two seconds. -/
theorem limits_iff_lateClock :
    Limits 1000000000 (answers ⟨1000000000, 0⟩ [2000000000, 2500000000, 3000000000]) := by
  have nonneg : ∀ now ∈ [(2000000000 : Int64), 2500000000, 3000000000], 0 ≤ now.toInt := by
    simp only [List.forall_mem_cons]
    exact ⟨by decide, by decide, by decide, fun _ member => absurd member List.not_mem_nil⟩
  apply (limits_iff nonneg (by decide)).mpr
  intro first isFirst
  rw [← Option.some.inj isFirst]
  decide

/-- A clock that starts at zero: the first call is refused, and so is the second, though
nothing was accepted before. -/
theorem clockAtZero_not_limits :
    answers ⟨1000000000, 0⟩ [0, 500000000] = [(0, false), (500000000, false)] ∧
      ¬Limits 1000000000 (answers ⟨1000000000, 0⟩ [0, 500000000]) := by
  have refused : answers ⟨1000000000, 0⟩ [0, 500000000] = [(0, false), (500000000, false)] := by
    decide
  refine ⟨refused, ?_⟩
  intro limits
  rw [refused] at limits
  have answered := (spaced_cons.mp limits.spaced).1
  exact absurd (answered.mpr (by rintro _ ⟨⟩)) (by decide)

end RateLimiter

end SpotSdk.Common
