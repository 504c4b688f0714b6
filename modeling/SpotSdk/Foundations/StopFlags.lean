import SpotSdk.Foundations.LabelledRuns

/-!
# Threads that wait on a stop flag

A worker takes its steps alone, and waits on a condition variable between them. Other
threads raise a flag under its mutex and notify it after they have released the mutex. The
worker tests the flag and falls asleep in one block, so that a flag that is raised while it
sleeps is always followed by a notification. The runs of the whole project to runs of the
worker, whose waits end as the flag says.
-/

namespace SpotSdk.Foundations

/-- A system of one thread with waits. Of the end of a wait its label says whether the
thread goes on. -/
structure WaitingWorker (σ ε : Type*) where
  step : σ → ε → Option σ
  atWait : σ → Bool
  goesOn : ε → Option Bool

/-- Where a thread is with its waits. -/
inductive SleepPlace
  | awake
  | asleep
  | woken (timedOut : Bool)
  deriving DecidableEq, Repr

/-- The worker with its labels so far, the flag, and the notifications that are owed. -/
structure Stoppable (σ ε : Type*) where
  worker : σ
  trace : List ε := []
  shouldExit : Bool := false
  owed : Nat := 0
  place : SleepPlace := .awake

/-- The blocks of all threads. -/
inductive StopEvent (ε : Type*)
  | work (e : ε)
  | returnAtOnce (e : ε)
  | fallAsleep
  | wake (timedOut : Bool)
  | resume (e : ε)
  | sleepAgain
  | raise
  | notifyAll

variable {σ ε : Type*}

/-- The worker has a step to take: at a wait the end of the wait that stops it, elsewhere
one of its own. -/
structure WaitingWorker.Ready (w : WaitingWorker σ ε) (worker : σ) : Prop where
  waiting : w.atWait worker = true → ∃ e, w.goesOn e = some false ∧ (w.step worker e).isSome
  working : w.atWait worker = false → ∃ e, w.goesOn e = none ∧ (w.step worker e).isSome

/-- The steps of a worker whose waits no longer let it go on. -/
def WaitingWorker.Final (w : WaitingWorker σ ε) : σ → ε → σ → Prop :=
  Guard (StepOf w.step) fun _ e => w.goesOn e ≠ some true

namespace Stoppable

section Step

variable (w : WaitingWorker σ ε)

/-- The worker takes a step and is awake. -/
def works (s : Stoppable σ ε) (e : ε) : Option (Stoppable σ ε) :=
  (w.step s.worker e).map fun worker =>
    { s with worker, trace := s.trace ++ [e], place := .awake }

/-- `notify_all`. -/
def notifyAll (s : Stoppable σ ε) : Stoppable σ ε :=
  { s with
    owed := s.owed - 1
    place := if s.place = .asleep then .woken false else s.place }

/-- One block of one thread. A spurious wakeup is one without a timeout. -/
def step (s : Stoppable σ ε) (e : StopEvent ε) : Option (Stoppable σ ε) :=
  match e, s.place with
  | .work e, .awake => if w.goesOn e = none then s.works w e else none
  | .returnAtOnce e, .awake =>
      if w.atWait s.worker = true ∧ s.shouldExit = true ∧ w.goesOn e = some false then
        s.works w e
      else none
  | .fallAsleep, .awake =>
      if w.atWait s.worker = true ∧ s.shouldExit = false then some { s with place := .asleep }
      else none
  | .wake timedOut, .asleep => some { s with place := .woken timedOut }
  | .resume e, .woken timedOut =>
      if (s.shouldExit = true ∨ timedOut = true) ∧ w.goesOn e = some !s.shouldExit then
        s.works w e
      else none
  | .sleepAgain, .woken false =>
      if s.shouldExit then none else some { s with place := .asleep }
  | .raise, _ => some { s with shouldExit := true, owed := s.owed + 1 }
  | .notifyAll, _ => if 0 < s.owed then some s.notifyAll else none
  | _, _ => none

/-- Nothing keeps the worker from its next step: a block of its own takes it, or it sleeps and
the notification that wakes it can come. -/
inductive Proceeds (s : Stoppable σ ε) : Prop
  | steps (block : StopEvent ε) (e : ε) (worker : σ) (notAsleep : s.place ≠ .asleep)
      (taken : step w s block =
        some { s with worker, trace := s.trace ++ [e], place := .awake })
  | notified {t : Stoppable σ ε} (asleep : s.place = .asleep)
      (taken : step w s .notifyAll = some t) (woken : t.place = .woken false)
      (same : t.worker = s.worker)

/-- What a block does: it is a step of the worker whose wait ends as the flag says, it
leaves the worker alone, or it raises the flag. -/
inductive Takes (s : Stoppable σ ε) : Stoppable σ ε → Prop
  | works {e worker} (hstep : w.step s.worker e = some worker)
      (ends : ∀ again, w.goesOn e = some again → again = !s.shouldExit) :
      Takes s { s with worker, trace := s.trace ++ [e], place := .awake }
  | sleeps (clear : s.shouldExit = false) (waits : s.place = .awake → w.atWait s.worker = true) :
      Takes s { s with place := .asleep }
  | wakes {timedOut} (asleep : s.place = .asleep) : Takes s { s with place := .woken timedOut }
  | raises : Takes s { s with shouldExit := true, owed := s.owed + 1 }
  | notifies (owes : 0 < s.owed) : Takes s s.notifyAll

end Step

variable {w : WaitingWorker σ ε} {s t : Stoppable σ ε} {e : StopEvent ε}
  {es : List (StopEvent ε)}

theorem works_eq_some {e : ε} (hworks : s.works w e = some t) :
    ∃ worker, w.step s.worker e = some worker ∧
      t = { s with worker, trace := s.trace ++ [e], place := .awake } := by
  obtain ⟨worker, hstep, rfl⟩ := Option.map_eq_some_iff.mp hworks
  exact ⟨worker, hstep, rfl⟩

theorem step_cases (hstep : StepOf (step w) s e t) : Takes w s t := by
  unfold StepOf step at hstep
  split at hstep
  case h_1 e place =>
    split_ifs at hstep with plain
    obtain ⟨worker, moves, rfl⟩ := works_eq_some hstep
    exact .works moves fun again ends => by rw [plain] at ends; cases ends
  case h_2 e place =>
    split_ifs at hstep with returns
    obtain ⟨worker, moves, rfl⟩ := works_eq_some hstep
    refine .works moves fun again ends => ?_
    rw [returns.2.2] at ends
    rw [returns.2.1, ← Option.some.inj ends]
    rfl
  case h_3 place =>
    split_ifs at hstep with waits
    exact Option.some.inj hstep ▸ .sleeps waits.2 fun _ => waits.1
  case h_4 timedOut place => exact Option.some.inj hstep ▸ .wakes place
  case h_5 e timedOut place =>
    split_ifs at hstep with returns
    obtain ⟨worker, moves, rfl⟩ := works_eq_some hstep
    refine .works moves fun again ends => ?_
    exact Option.some.inj (ends.symm.trans returns.2)
  case h_6 place =>
    split_ifs at hstep with raised
    exact Option.some.inj hstep ▸ .sleeps (Bool.eq_false_iff.mpr raised)
      fun awake => nomatch place.symm.trans awake
  case h_7 => exact Option.some.inj hstep ▸ .raises
  case h_8 =>
    split_ifs at hstep with owes
    exact Option.some.inj hstep ▸ .notifies owes
  case h_9 => cases hstep

/-- What a run of all threads means for the worker. -/
structure Projects (w : WaitingWorker σ ε) (s t : Stoppable σ ε) (labels : List ε) : Prop where
  trace : t.trace = s.trace ++ labels
  run : Run (StepOf w.step) s.worker labels t.worker
  stays : s.shouldExit = true → t.shouldExit = true
  /-- Once the flag is raised no wait ends with the loop going on. -/
  ends : s.shouldExit = true → ∀ e ∈ labels, w.goesOn e ≠ some true
  /-- As long as it is not raised no wait ends otherwise. -/
  continues : t.shouldExit = false → ∀ e ∈ labels, w.goesOn e ≠ some false

theorem projects_of_step (hstep : StepOf (step w) s e t) :
    ∃ labels, Projects w s t labels := by
  cases step_cases hstep with
  | @works e worker moves ends =>
      refine ⟨[e], rfl, .single moves, id, fun raised x member => ?_, fun clear x member => ?_⟩
      · rw [List.mem_singleton.mp member]
        intro again
        have agrees := ends true again
        rw [raised] at agrees
        cases agrees
      · rw [List.mem_singleton.mp member]
        intro stopped
        have agrees := ends false stopped
        have same : s.shouldExit = false := clear
        rw [same] at agrees
        cases agrees
  | sleeps => exact ⟨[], (List.append_nil _).symm, .nil _, id, by simp, by simp⟩
  | wakes => exact ⟨[], (List.append_nil _).symm, .nil _, id, by simp, by simp⟩
  | raises => exact ⟨[], (List.append_nil _).symm, .nil _, fun _ => rfl, by simp, by simp⟩
  | notifies => exact ⟨[], (List.append_nil _).symm, .nil _, id, by simp, by simp⟩

/-- Every run of all threads is a run of the worker. -/
theorem projects_of_run (run : Run (StepOf (step w)) s es t) :
    ∃ labels, Projects w s t labels := by
  induction run with
  | nil s => exact ⟨[], (List.append_nil _).symm, .nil _, id, by simp, by simp⟩
  | cons hstep _ ih =>
      obtain ⟨first, here⟩ := projects_of_step hstep
      obtain ⟨rest, later⟩ := ih
      refine ⟨first ++ rest, ?_, here.run.append later.run, later.stays ∘ here.stays, ?_, ?_⟩
      · rw [later.trace, here.trace, List.append_assoc]
      · intro raised
        rw [List.forall_mem_append]
        exact ⟨here.ends raised, later.ends (here.stays raised)⟩
      · intro clear
        rw [List.forall_mem_append]
        refine ⟨here.continues ?_, later.continues clear⟩
        by_contra raised
        rw [Bool.not_eq_false] at raised
        exact absurd (later.stays raised) (Bool.eq_false_iff.mp clear)

theorem Projects.final {labels : List ε} (projects : Projects w s t labels)
    (raised : s.shouldExit = true) : Run w.Final s.worker labels t.worker :=
  projects.run.guarded (projects.ends raised)

/-- A flag that is raised over a sleeping worker is still to be notified. -/
def Owes (s : Stoppable σ ε) : Prop :=
  s.place = .asleep → s.shouldExit = true → 0 < s.owed

theorem owes_of_step (hstep : StepOf (step w) s e t) : t.Owes := by
  cases step_cases hstep with
  | works => exact fun asleep => nomatch asleep
  | sleeps clear => exact fun _ raised => absurd (clear.symm.trans raised) Bool.false_ne_true
  | wakes => exact fun asleep => nomatch asleep
  | raises => exact fun _ _ => Nat.succ_pos _
  | notifies =>
      intro asleep
      unfold notifyAll at asleep
      dsimp only at asleep
      split_ifs at asleep with slept
      exact absurd asleep slept

/-- No wakeup is lost. -/
theorem owes_of_run (run : Run (StepOf (step w)) s es t) (owes : s.Owes) : t.Owes :=
  run.invariant owes fun _ => owes_of_step

/-- A worker that is not awake is at a wait. -/
def WaitsAsleep (w : WaitingWorker σ ε) (s : Stoppable σ ε) : Prop :=
  s.place ≠ .awake → w.atWait s.worker = true

theorem waitsAsleep_of_step (hstep : StepOf (step w) s e t) (waits : WaitsAsleep w s) :
    WaitsAsleep w t := by
  cases step_cases hstep with
  | works => exact fun notAwake => absurd rfl notAwake
  | sleeps _ atWait =>
      intro _
      by_cases awake : s.place = .awake
      · exact atWait awake
      · exact waits awake
  | wakes asleep => exact fun _ => waits fun awake => nomatch asleep.symm.trans awake
  | raises => exact waits
  | notifies =>
      intro notAwake
      apply waits
      rintro awake
      simp [notifyAll, awake] at notAwake

theorem waitsAsleep_of_run (run : Run (StepOf (step w)) s es t) (waits : WaitsAsleep w s) :
    WaitsAsleep w t :=
  run.invariant waits fun waits hstep => waitsAsleep_of_step hstep waits

/-- Once the flag is raised nothing keeps a worker that has a step to take from taking it. -/
theorem proceeds_of_ready (raised : s.shouldExit = true) (waits : WaitsAsleep w s)
    (owes : s.Owes) (ready : w.Ready s.worker) : Proceeds w s := by
  cases place : s.place with
  | awake =>
      have notAsleep : s.place ≠ .asleep := fun asleep => nomatch place.symm.trans asleep
      cases atWait : w.atWait s.worker with
      | true =>
          obtain ⟨e, stops, taken⟩ := ready.waiting atWait
          obtain ⟨worker, moves⟩ := Option.isSome_iff_exists.mp taken
          refine .steps (.returnAtOnce e) e worker notAsleep ?_
          simp [step, place, atWait, raised, stops, works, moves]
      | false =>
          obtain ⟨e, plain, taken⟩ := ready.working atWait
          obtain ⟨worker, moves⟩ := Option.isSome_iff_exists.mp taken
          refine .steps (.work e) e worker notAsleep ?_
          simp [step, place, plain, works, moves]
  | asleep =>
      have owed := owes place raised
      refine .notified (t := s.notifyAll) place ?_ ?_ rfl
      · simp [step, owed]
      · simp [notifyAll, place]
  | woken timedOut =>
      have notAsleep : s.place ≠ .asleep := fun asleep => nomatch place.symm.trans asleep
      have atWait := waits fun awake => nomatch place.symm.trans awake
      obtain ⟨e, stops, taken⟩ := ready.waiting atWait
      obtain ⟨worker, moves⟩ := Option.isSome_iff_exists.mp taken
      refine .steps (.resume e) e worker notAsleep ?_
      simp [step, place, raised, stops, works, moves]

/-- After the flag is raised the worker only runs to its end, and it does not sleep on: as
long as it has a step to take, nothing keeps it from taking it. -/
theorem final_after_raise (run : Run (StepOf (step w)) s (.raise :: es) t)
    (waits : WaitsAsleep w s) :
    ∃ labels, t.trace = s.trace ++ labels ∧ Run w.Final s.worker labels t.worker ∧ t.Owes ∧
      (w.Ready t.worker → Proceeds w t) := by
  have asleep := waitsAsleep_of_run run waits
  cases run with
  | cons raises tail =>
      obtain rfl := Option.some.inj raises
      obtain ⟨labels, projects⟩ := projects_of_run tail
      have owes := owes_of_run tail (owes_of_step raises)
      exact ⟨labels, projects.trace, projects.final rfl, owes,
        proceeds_of_ready (projects.stays rfl) asleep owes⟩

/-- Every run from a fresh flag is a run of the worker with the labels so far, and only the
flag ends a wait of it for good. -/
theorem run_of_fresh {worker : σ} (run : Run (StepOf (step w)) { worker } es t) :
    Run (StepOf w.step) worker t.trace t.worker ∧
      (t.shouldExit = false → ∀ e ∈ t.trace, w.goesOn e ≠ some false) := by
  obtain ⟨labels, projects⟩ := projects_of_run run
  have same : t.trace = labels := projects.trace
  rw [same]
  exact ⟨projects.run, projects.continues⟩

end Stoppable

end SpotSdk.Foundations
