import SpotSdk.Foundations.LabelledRuns

/-!
# Starting and stopping the time sync thread

`Start` and `Stop` of a `TimeSyncThread` are called by any number of threads. `Start`
holds the mutex while it makes the background thread and assigns it to `m_thread`; `Stop`
joins outside of the mutex, after the background thread has set the stopped flag itself.

## Implementation notes

Which thread a call is made by decides nothing, so the calls have no names: one `Start`
at most is past its first step, since it holds the mutex, and the `Stop` calls that are to
join are counted.
-/

namespace SpotSdk.Client.TimeSync

open Foundations

/-- Where a background thread is in `TimeSyncThreadMethod`. -/
inductive BackgroundPoint
  | running
  | exiting
  | exited
  deriving DecidableEq

/-- A started background thread, and how often it was joined. -/
structure Background where
  point : BackgroundPoint := .running
  joins : Nat := 0
  deriving DecidableEq

/-- Where the `Start` call that holds the mutex is. It knows whether a `Stop` call was in
progress when it began. -/
inductive Starting
  | entered (quiet : Bool)
  | created (id : Nat) (quiet : Bool)
  deriving DecidableEq

/-- The members of a `TimeSyncThread` that concern its thread, and the calls in progress.
`thread` is `m_thread`, if that is joinable. The last three fields record what went
wrong, and for every `Start` that returned whether it began with no `Stop` in progress
and whether it left a thread running. -/
structure Lifecycle where
  shouldExit : Bool := false
  threadStopped : Bool := true
  thread : Option Nat := none
  starting : Option Starting := none
  joining : Nat := 0
  background : List Background := []
  assignedOver : Bool := false
  joinedUnjoinable : Bool := false
  starts : List (Bool × Bool) := []
  deriving DecidableEq

inductive LifecycleStep
  | start
  | create
  | assign
  | stop
  | join
  | checkExit (id : Nat)
  | setStopped (id : Nat)

namespace Lifecycle

/-- The thread of `m_thread` runs and has not been told to exit. -/
def leftRunning (s : Lifecycle) : Bool :=
  !s.shouldExit && s.thread.any fun id => s.background[id]?.any (·.point = .running)

def setPoint (s : Lifecycle) (id : Nat) (point : BackgroundPoint) : Lifecycle :=
  { s with background := s.background.modify id fun b => { b with point := point } }

/-- `Start` returns. -/
def startReturns (s : Lifecycle) (quiet : Bool) : Lifecycle :=
  { s with starting := none, starts := s.starts ++ [(quiet, s.leftRunning)] }

def step (s : Lifecycle) : LifecycleStep → Option Lifecycle
  | .start =>
      if s.starting.isSome then none
      else if !s.threadStopped then some (s.startReturns (s.joining = 0))
      else some { s with
        shouldExit := false, threadStopped := false
        starting := some (.entered (s.joining = 0)) }
  | .create =>
      match s.starting with
      | some (.entered quiet) => some { s with
          background := s.background ++ [{}]
          starting := some (.created s.background.length quiet) }
      | _ => none
  -- the assignment terminates the program if the thread assigned over is joinable
  | .assign =>
      match s.starting with
      | some (.created id quiet) =>
          let assigned := { s with
            assignedOver := s.assignedOver || s.thread.isSome, thread := some id }
          some (assigned.startReturns quiet)
      | _ => none
  | .stop =>
      if s.starting.isSome then none
      else if s.threadStopped then some s
      else some { s with shouldExit := true, joining := s.joining + 1 }
  -- `join` waits for the thread to end, and throws if there is none to join
  | .join =>
      if s.joining = 0 then none
      else match s.thread with
        | none => some { s with joinedUnjoinable := true, joining := s.joining - 1 }
        | some id =>
            if s.background[id]?.any (·.point = .exited) then
              some { s with
                thread := none, joining := s.joining - 1
                background := s.background.modify id fun b => { b with joins := b.joins + 1 } }
            else none
  | .checkExit id =>
      if s.starting.isSome then none
      else if s.background[id]?.any (·.point = .running) then
        if s.shouldExit then some (s.setPoint id .exiting) else some s
      else none
  | .setStopped id =>
      if s.starting.isSome then none
      else if s.background[id]?.any (·.point = .exiting) then
        some { s.setPoint id .exited with threadStopped := true }
      else none

end Lifecycle

/-- What holds in every state: the thread object is used properly, a thread that is not
the current one was joined once, and a `Start` that began with no `Stop` in progress left a
thread running. -/
structure Orderly (s : Lifecycle) : Prop where
  assignedOver : s.assignedOver = false
  joinedUnjoinable : s.joinedUnjoinable = false
  joins : ∀ (id : Nat) b, s.background[id]? = some b → b.joins =
    if s.thread = some id ∨ ∃ quiet, s.starting = some (.created id quiet) then 0 else 1
  starts : ∀ quiet running, (quiet, running) ∈ s.starts → quiet = true → running = true

/-- A `Start` that is to make a thread, and a `Stop` that is to join one, find no other
`Stop` call that has yet to join. -/
def Uncontended (s : Lifecycle) : LifecycleStep → Prop
  | .start => s.threadStopped = true → s.joining = 0
  | .stop => s.threadStopped = false → s.joining = 0
  | _ => True

/-- Background threads that have ended and were joined once. -/
def Joined (background : List Background) : Prop :=
  ∀ b ∈ background, b = { point := .exited, joins := 1 }

/-- The promise of the `Start` calls that have returned. -/
def Promises (starts : List (Bool × Bool)) : Prop :=
  ∀ quiet running, (quiet, running) ∈ starts → quiet = true → running = true

/-- The states that uncontended calls reach. The current thread is the last one that was
started; all others are joined. -/
inductive Sound : Lifecycle → Prop
  | stopped {shouldExit bs starts} (joined : Joined bs) (kept : Promises starts) :
      Sound { shouldExit := shouldExit, background := bs, starts := starts }
  | entered {quiet bs starts} (joined : Joined bs) (kept : Promises starts) :
      Sound { threadStopped := false, starting := some (.entered quiet), background := bs
              starts := starts }
  | created {quiet bs starts} (joined : Joined bs) (kept : Promises starts) :
      Sound { threadStopped := false, starting := some (.created bs.length quiet)
              background := bs ++ [{}], starts := starts }
  | running {bs starts} (joined : Joined bs) (kept : Promises starts) :
      Sound { threadStopped := false, thread := some bs.length, background := bs ++ [{}]
              starts := starts }
  | stopping {point bs starts} (alive : point ≠ .exited) (joined : Joined bs)
      (kept : Promises starts) :
      Sound { shouldExit := true, threadStopped := false, thread := some bs.length, joining := 1
              background := bs ++ [{ point := point }], starts := starts }
  | ended {bs starts} (joined : Joined bs) (kept : Promises starts) :
      Sound { shouldExit := true, thread := some bs.length, joining := 1
              background := bs ++ [{ point := .exited }], starts := starts }

section Background

variable {bs : List Background} {b : Background} {id : Nat} {point : BackgroundPoint}

theorem modify_last (bs : List Background) (b : Background) (f : Background → Background) :
    (bs ++ [b]).modify bs.length f = bs ++ [f b] := by
  induction bs with
  | nil => rfl
  | cons _ bs ih => simp [ih]

/-- Only the current thread has not ended. -/
theorem current_of_alive (joined : Joined bs) (alive : point ≠ .exited)
    (h : (bs ++ [b])[id]?.any (·.point = point) = true) : id = bs.length ∧ b.point = point := by
  obtain ⟨found, here, same⟩ := Option.any_eq_true _ _ |>.mp h
  have point' := of_decide_eq_true same
  by_cases before : id < bs.length
  · rw [List.getElem?_append_left before] at here
    rw [joined found (List.mem_of_getElem? here)] at point'
    exact absurd point'.symm alive
  · obtain ⟨inside, _⟩ := List.getElem?_eq_some_iff.mp here
    rw [List.length_append, List.length_singleton] at inside
    obtain rfl : id = bs.length := by omega
    rw [List.getElem?_concat_length] at here
    exact ⟨rfl, Option.some.inj here ▸ point'⟩

/-- A joined thread is at no other point than its end. -/
theorem none_alive (joined : Joined bs) (alive : point ≠ .exited) :
    bs[id]?.any (·.point = point) = false := by
  rw [Bool.eq_false_iff]
  intro h
  obtain ⟨found, here, same⟩ := Option.any_eq_true _ _ |>.mp h
  have point' := of_decide_eq_true same
  rw [joined found (List.mem_of_getElem? here)] at point'
  exact alive point'.symm

/-- Every thread but the current one was joined once. -/
theorem joins_of_getElem? (joined : Joined bs) {found : Background}
    (h : (bs ++ [b])[id]? = some found) :
    found.joins = if bs.length = id then b.joins else 1 := by
  by_cases before : id < bs.length
  · rw [List.getElem?_append_left before] at h
    rw [joined found (List.mem_of_getElem? h), if_neg (by omega)]
  · obtain ⟨inside, _⟩ := List.getElem?_eq_some_iff.mp h
    rw [List.length_append, List.length_singleton] at inside
    obtain rfl : id = bs.length := by omega
    rw [List.getElem?_concat_length] at h
    rw [if_pos rfl, Option.some.inj h]

theorem Joined.append (joined : Joined bs) : Joined (bs ++ [{ point := .exited, joins := 1 }]) := by
  intro b member
  rcases List.mem_append.mp member with before | last
  · exact joined b before
  · exact List.mem_singleton.mp last

theorem Promises.append {starts : List (Bool × Bool)} (h : Promises starts) {quiet running : Bool}
    (keeps : quiet = true → running = true) : Promises (starts ++ [(quiet, running)]) := by
  intro q r member hq
  rcases List.mem_append.mp member with before | last
  · exact h q r before hq
  · obtain ⟨rfl, rfl⟩ := Prod.mk.inj (List.mem_singleton.mp last)
    exact keeps hq

end Background

namespace Sound

variable {s t : Lifecycle}

theorem start (h : Sound s) (next : s.step .start = some t) (calm : Uncontended s .start) :
    Sound t := by
  cases h with
  | stopped joined kept =>
      obtain rfl := Option.some.inj next
      exact .entered joined kept
  | entered joined kept => simp [Lifecycle.step] at next
  | created joined kept => simp [Lifecycle.step] at next
  | running joined kept =>
      obtain rfl := Option.some.inj next
      apply Sound.running joined
      apply kept.append
      intro _
      simp [Lifecycle.leftRunning]
  | stopping alive joined kept =>
      obtain rfl := Option.some.inj next
      exact .stopping alive joined (kept.append (by simp))
  | ended joined kept => exact absurd (calm rfl) Nat.one_ne_zero

theorem create (h : Sound s) (next : s.step .create = some t) : Sound t := by
  cases h with
  | entered joined kept =>
      obtain rfl := Option.some.inj next
      exact .created joined kept
  | _ => simp [Lifecycle.step] at next

theorem assign (h : Sound s) (next : s.step .assign = some t) : Sound t := by
  cases h with
  | created joined kept =>
      obtain rfl := Option.some.inj next
      apply Sound.running joined
      apply kept.append
      intro _
      simp [Lifecycle.leftRunning]
  | _ => simp [Lifecycle.step] at next

theorem stop (h : Sound s) (next : s.step .stop = some t) (calm : Uncontended s .stop) :
    Sound t := by
  cases h with
  | stopped joined kept =>
      obtain rfl := Option.some.inj next
      exact .stopped joined kept
  | entered joined kept => simp [Lifecycle.step] at next
  | created joined kept => simp [Lifecycle.step] at next
  | running joined kept =>
      obtain rfl := Option.some.inj next
      exact .stopping (by simp) joined kept
  | stopping alive joined kept => exact absurd (calm rfl) Nat.one_ne_zero
  | ended joined kept =>
      obtain rfl := Option.some.inj next
      exact .ended joined kept

theorem join (h : Sound s) (next : s.step .join = some t) : Sound t := by
  cases h with
  | stopping alive joined kept =>
      simp only [Lifecycle.step, List.getElem?_concat_length] at next
      simp [alive] at next
  | ended joined kept =>
      simp only [Lifecycle.step, List.getElem?_concat_length] at next
      obtain rfl := Option.some.inj next
      simp only [modify_last]
      exact .stopped joined.append kept
  | _ => simp [Lifecycle.step] at next

/-- The background thread reads `m_should_exit` while it runs. -/
theorem step_checkExit {id : Nat} (next : s.step (.checkExit id) = some t) :
    s.starting = none ∧ s.background[id]?.any (·.point = .running) ∧
      t = if s.shouldExit then s.setPoint id .exiting else s := by
  simp only [Lifecycle.step] at next
  split at next
  · cases next
  · next calm =>
    split at next
    · next here =>
      refine ⟨Option.not_isSome_iff_eq_none.mp calm, here, ?_⟩
      split at next
      · next exits => rw [if_pos exits, Option.some.inj next]
      · next stays => rw [if_neg stays, Option.some.inj next]
    · cases next

/-- The background thread marks its end after it has left its loop. -/
theorem step_setStopped {id : Nat} (next : s.step (.setStopped id) = some t) :
    s.starting = none ∧ s.background[id]?.any (·.point = .exiting) ∧
      t = { s.setPoint id .exited with threadStopped := true } := by
  simp only [Lifecycle.step] at next
  split at next
  · cases next
  · next calm =>
    split at next
    · next here =>
      exact ⟨Option.not_isSome_iff_eq_none.mp calm, here, (Option.some.inj next).symm⟩
    · cases next

theorem checkExit (h : Sound s) {id : Nat} (next : s.step (.checkExit id) = some t) : Sound t := by
  have alive : BackgroundPoint.running ≠ .exited := by simp
  obtain ⟨calm, here, rfl⟩ := step_checkExit next
  cases h with
  | stopped joined kept => exact absurd here (Bool.eq_false_iff.mp (none_alive joined alive))
  | entered joined kept => cases calm
  | created joined kept => cases calm
  | running joined kept => exact .running joined kept
  | stopping _ joined kept =>
      obtain ⟨rfl, rfl⟩ := current_of_alive joined alive here
      simp only [Lifecycle.setPoint, modify_last]
      exact .stopping (by simp) joined kept
  | ended joined kept => cases (current_of_alive joined alive here).2

theorem setStopped (h : Sound s) {id : Nat} (next : s.step (.setStopped id) = some t) :
    Sound t := by
  have alive : BackgroundPoint.exiting ≠ .exited := by simp
  obtain ⟨calm, here, rfl⟩ := step_setStopped next
  cases h with
  | stopped joined kept => exact absurd here (Bool.eq_false_iff.mp (none_alive joined alive))
  | entered joined kept => cases calm
  | created joined kept => cases calm
  | running joined kept => cases (current_of_alive joined alive here).2
  | stopping _ joined kept =>
      obtain ⟨rfl, _⟩ := current_of_alive joined alive here
      simp only [Lifecycle.setPoint, modify_last]
      exact .ended joined kept
  | ended joined kept => cases (current_of_alive joined alive here).2

theorem step (h : Sound s) {e : LifecycleStep}
    (next : Guard (StepOf Lifecycle.step) Uncontended s e t) :
    Sound t := by
  obtain ⟨next, calm⟩ := next
  cases e with
  | start => exact h.start next calm
  | create => exact h.create next
  | assign => exact h.assign next
  | stop => exact h.stop next calm
  | join => exact h.join next
  | checkExit id => exact h.checkExit next
  | setStopped id => exact h.setStopped next

theorem orderly (h : Sound s) : Orderly s := by
  cases h with
  | stopped joined kept | entered joined kept =>
      refine ⟨rfl, rfl, ?_, kept⟩
      intro id b here
      simp [joined b (List.mem_of_getElem? here)]
  | created joined kept | running joined kept | stopping _ joined kept | ended joined kept =>
      refine ⟨rfl, rfl, ?_, kept⟩
      intro id b here
      simpa using joins_of_getElem? joined here

end Sound

/-- In every run of uncontended calls the thread is started, joined and left running in
order. -/
theorem uncontended_orderly {es : List LifecycleStep} {s : Lifecycle}
    (run : Run (Guard (StepOf Lifecycle.step) Uncontended) {} es s) : Orderly s := by
  have start : Sound {} := .stopped (fun _ h => absurd h List.not_mem_nil)
    (fun _ _ h => absurd h List.not_mem_nil)
  exact (run.invariant start (fun h next => h.step next)).orderly

/-- The thread is started, stopped and joined, and started again. -/
theorem uncontended_orderly_restart :
    Orderly { threadStopped := false, thread := some 1
              background := [{ point := .exited, joins := 1 }, {}]
              starts := [(true, true), (true, true)] } := by
  have run : Run (Guard (StepOf Lifecycle.step) Uncontended) {}
      [.start, .create, .assign, .stop, .checkExit 0, .setStopped 0, .join, .start, .create,
        .assign] _ :=
    .cons ⟨rfl, fun _ => rfl⟩ (.cons ⟨rfl, trivial⟩ (.cons ⟨rfl, trivial⟩ (.cons ⟨rfl, fun _ => rfl⟩
      (.cons ⟨rfl, trivial⟩ (.cons ⟨rfl, trivial⟩ (.cons ⟨rfl, trivial⟩ (.cons ⟨rfl, fun _ => rfl⟩
        (.cons ⟨rfl, trivial⟩ (.cons ⟨rfl, trivial⟩ (.nil _))))))))))
  exact uncontended_orderly run

/-- A `Start` that finds the stopped flag set before the thread was joined assigns over a
joinable thread, and of two `Stop` calls that both ask for the exit one has none to join. -/
theorem contended_not_orderly :
    (∃ s, Run (StepOf Lifecycle.step) {}
      [.start, .create, .assign, .stop, .checkExit 0, .setStopped 0, .start, .create, .assign] s ∧
      s.assignedOver = true ∧ ¬Orderly s) ∧
    ∃ s, Run (StepOf Lifecycle.step) {}
      [.start, .create, .assign, .stop, .stop, .checkExit 0, .setStopped 0, .join, .join] s ∧
      s.joinedUnjoinable = true ∧ ¬Orderly s := by
  constructor
  · refine ⟨_, .cons rfl (.cons rfl (.cons rfl (.cons rfl (.cons rfl (.cons rfl (.cons rfl
      (.cons rfl (.cons rfl (.nil _))))))))), rfl, ?_⟩
    intro orderly
    exact absurd orderly.assignedOver (by decide)
  · refine ⟨_, .cons rfl (.cons rfl (.cons rfl (.cons rfl (.cons rfl (.cons rfl (.cons rfl
      (.cons rfl (.cons rfl (.nil _))))))))), rfl, ?_⟩
    intro orderly
    exact absurd orderly.joinedUnjoinable (by decide)

end SpotSdk.Client.TimeSync
