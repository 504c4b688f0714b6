import Mathlib.Algebra.Order.Field.Rat
import SpotSdk.Common.ResponseProcessing

/-!
# Polling until a deadline

The helpers that wait for the robot send one request after another until a response
decides, or until the deadline. Clock readings are inputs: the clock may stand still, jump
or go back between two of them.
-/

namespace SpotSdk.Client

open Common

/-- `NsecToSec`, without the rounding of a `double`. -/
def nsecToSec (nsec : Int) : ℚ :=
  nsec / 1000000000

/-- What one turn of the loop reads from the clock, and the response to its request: how
many seconds after the wait for it begins it comes, and its result. A response with no
time to wait for is there when the wait begins. -/
structure PollTurn (M : Type*) where
  loopClock : Int
  waitClock : Int
  callClock : Int
  response : Option (ℚ × Result M)
  doneClock : Int

/-- The calls of the loop, in their order. -/
inductive PollEvent (M : Type*)
  | request
  | received (result : Result M)
  | sleepFor (seconds : ℚ)

/-- What a helper did so far, and the status it returned. -/
structure HelperRun (E : Type*) where
  events : List E
  status : Option Status

/-- The helper returned a success. -/
def HelperRun.Succeeds {E : Type*} (run : HelperRun E) : Prop :=
  ∃ status, run.status = some status ∧ status.ok = true

theorem HelperRun.not_succeeds {E : Type*} (events : List E) {status : Status}
    (failed : status.ok = false) : ¬ HelperRun.Succeeds ⟨events, some status⟩ := by
  rintro ⟨_, returned, ok⟩
  obtain rfl := Option.some.inj returned
  exact absurd (failed.symm.trans ok) Bool.false_ne_true

def commandTimedOutError : Status :=
  ⟨SDKErrorCode.genericSDKError.code, "CommandTimedOutError"⟩

section Loop

variable {M : Type*}

/-- `wait_for` on the future of a turn: what it holds, if it is ready in time. -/
def PollTurn.waitFor (turn : PollTurn M) (timeUntilTimeout : ℚ) : Option (Result M) :=
  match turn.response with
  | none => none
  | some (arrival, result) =>
      if arrival ≤ 0 ∨ arrival < timeUntilTimeout then some result else none

/-- The polling loop of the helpers, over what its caller makes of a result: a status to
return, or one more turn. -/
def pollUntil (endTime updateTime : ℚ) (onReady : Result M → Option Status) :
    List (PollTurn M) → HelperRun (PollEvent M)
  | [] => ⟨[], none⟩
  | turn :: rest =>
      if nsecToSec turn.loopClock < endTime then
        let timeUntilTimeout := endTime - nsecToSec turn.waitClock
        let startCallTime := nsecToSec turn.callClock
        match turn.waitFor timeUntilTimeout with
        | none => ⟨[.request], some commandTimedOutError⟩
        | some result =>
            match onReady result with
            | some status => ⟨[.request, .received result], some status⟩
            | none =>
                let callTime := nsecToSec turn.doneClock - startCallTime
                let sleepTime := max 0 (updateTime - callTime)
                let later := pollUntil endTime updateTime onReady rest
                ⟨.request :: .received result :: .sleepFor sleepTime :: later.events,
                  later.status⟩
      else ⟨[], some commandTimedOutError⟩

/-- The turn begins before the deadline, and the response is there when its wait begins
or comes while the reading for the wait leaves time. -/
def PollTurn.Receives (endTime : ℚ) (turn : PollTurn M) (result : Result M) : Prop :=
  nsecToSec turn.loopClock < endTime ∧ ∃ arrival, turn.response = some (arrival, result) ∧
    (arrival ≤ 0 ∨ nsecToSec turn.waitClock + arrival < endTime)

/-- The response comes before the deadline. Its request is sent after the last reading
before the wait. -/
def PollTurn.ReceivesBefore (endTime : ℚ) (turn : PollTurn M) (result : Result M) : Prop :=
  nsecToSec turn.loopClock < endTime ∧ ∃ arrival, turn.response = some (arrival, result) ∧
    nsecToSec turn.callClock + max 0 arrival < endTime

/-- Some turn receives a wanted result, and every turn before it one that lets the loop
pass. -/
def ReceivedAmong (receives : PollTurn M → Result M → Prop) (wanted passed : Result M → Prop)
    (turns : List (PollTurn M)) : Prop :=
  ∃ before turn after, turns = before ++ turn :: after ∧
    (∃ result, receives turn result ∧ wanted result) ∧
    ∀ earlier ∈ before, ∃ result, receives earlier result ∧ passed result

variable {endTime updateTime : ℚ} {onReady : Result M → Option Status} {turn : PollTurn M}
  {rest turns : List (PollTurn M)} {result : Result M} {status : Status}
  {receives : PollTurn M → Result M → Prop} {wanted passed : Result M → Prop}

theorem PollTurn.waitFor_eq_some_iff {timeUntilTimeout : ℚ} :
    turn.waitFor timeUntilTimeout = some result ↔
      ∃ arrival, turn.response = some (arrival, result) ∧
        (arrival ≤ 0 ∨ arrival < timeUntilTimeout) := by
  unfold waitFor
  cases turn.response with
  | none => simp
  | some response =>
      obtain ⟨arrival, got⟩ := response
      simp only [Option.ite_none_right_eq_some, Option.some.injEq, Prod.mk.injEq]
      constructor
      · rintro ⟨inTime, rfl⟩
        exact ⟨arrival, ⟨rfl, rfl⟩, inTime⟩
      · rintro ⟨_, ⟨rfl, rfl⟩, inTime⟩
        exact ⟨inTime, rfl⟩

/-- A turn receives what its wait gives it, if it begins before the deadline. -/
theorem PollTurn.receives_iff :
    turn.Receives endTime result ↔ nsecToSec turn.loopClock < endTime ∧
      turn.waitFor (endTime - nsecToSec turn.waitClock) = some result := by
  rw [Receives, waitFor_eq_some_iff]
  refine and_congr_right fun _ => exists_congr fun arrival => and_congr_right fun _ => ?_
  rw [lt_sub_iff_add_lt']

/-- A turn receives one result at most. -/
theorem PollTurn.Receives.unique {other : Result M} (h : turn.Receives endTime result)
    (h' : turn.Receives endTime other) : result = other := by
  obtain ⟨_, got⟩ := PollTurn.receives_iff.mp h
  obtain ⟨_, got'⟩ := PollTurn.receives_iff.mp h'
  exact Option.some.inj (got.symm.trans got')

/-! ## One turn -/

theorem pollUntil_returns (h : turn.Receives endTime result)
    (decided : onReady result = some status) :
    pollUntil endTime updateTime onReady (turn :: rest) =
      ⟨[.request, .received result], some status⟩ := by
  obtain ⟨inTime, ready⟩ := PollTurn.receives_iff.mp h
  simp [pollUntil, inTime, ready, decided]

theorem pollUntil_continues (updateTime : ℚ) (rest : List (PollTurn M))
    (h : turn.Receives endTime result) (undecided : onReady result = none) :
    ∃ sleepTime, pollUntil endTime updateTime onReady (turn :: rest) =
      ⟨.request :: .received result :: .sleepFor sleepTime ::
          (pollUntil endTime updateTime onReady rest).events,
        (pollUntil endTime updateTime onReady rest).status⟩ := by
  obtain ⟨inTime, ready⟩ := PollTurn.receives_iff.mp h
  simp [pollUntil, inTime, ready, undecided]

/-- A turn that receives nothing is the last one. -/
theorem pollUntil_timesOut (h : ∀ result, ¬ turn.Receives endTime result) :
    (pollUntil endTime updateTime onReady (turn :: rest)).status =
      some commandTimedOutError := by
  by_cases inTime : nsecToSec turn.loopClock < endTime
  · cases ready : turn.waitFor (endTime - nsecToSec turn.waitClock) with
    | none => simp [pollUntil, inTime, ready]
    | some result => exact absurd (PollTurn.receives_iff.mpr ⟨inTime, ready⟩) (h result)
  · simp [pollUntil, inTime]

/-- The ways a turn goes. -/
theorem pollUntil_cases (endTime : ℚ) (onReady : Result M → Option Status)
    (turn : PollTurn M) :
    (∃ result status, turn.Receives endTime result ∧ onReady result = some status) ∨
      (∃ result, turn.Receives endTime result ∧ onReady result = none) ∨
      ∀ result, ¬ turn.Receives endTime result := by
  by_cases h : ∃ result, turn.Receives endTime result
  · obtain ⟨result, received⟩ := h
    cases decided : onReady result with
    | none => exact .inr (.inl ⟨result, received, decided⟩)
    | some status => exact .inl ⟨result, status, received, decided⟩
  · exact .inr (.inr (not_exists.mp h))

/-! ## The whole loop -/

@[simp] theorem not_receivedAmong_nil : ¬ ReceivedAmong receives wanted passed [] := by
  rintro ⟨before, turn, after, split, _⟩
  simp at split

theorem receivedAmong_cons :
    ReceivedAmong receives wanted passed (turn :: rest) ↔
      (∃ result, receives turn result ∧ wanted result) ∨
        (∃ result, receives turn result ∧ passed result) ∧
          ReceivedAmong receives wanted passed rest := by
  constructor
  · rintro ⟨before, last, after, split, found, passing⟩
    cases before with
    | nil =>
        obtain ⟨rfl, rfl⟩ := List.cons.inj split
        exact .inl found
    | cons first before =>
        obtain ⟨rfl, rfl⟩ := List.cons.inj split
        refine .inr ⟨passing turn List.mem_cons_self, before, last, after, rfl, found, ?_⟩
        exact fun earlier member => passing earlier (List.mem_cons_of_mem _ member)
  · rintro (found | ⟨first, before, last, after, rfl, found, passing⟩)
    · exact ⟨[], turn, rest, rfl, found, by simp⟩
    · exact ⟨turn :: before, last, after, rfl, found, by simpa using ⟨first, passing⟩⟩

/-- The caller of the loop returns a success on a wanted result, and goes on after one
that passes. -/
structure Decides (onReady : Result M → Option Status) (wanted passed : Result M → Prop) :
    Prop where
  success : ∀ result, wanted result →
    ∃ status, onReady result = some status ∧ status.ok = true
  only : ∀ result status, onReady result = some status → status.ok = true → wanted result
  passes : ∀ result, onReady result = none → passed result
  goesOn : ∀ result, passed result → ¬ wanted result → onReady result = none

/-- What the caller returns is a success exactly on a wanted result. -/
theorem Decides.ok_iff (decides : Decides onReady wanted passed)
    (decided : onReady result = some status) : status.ok = true ↔ wanted result := by
  constructor
  · exact decides.only result status decided
  · intro found
    obtain ⟨_, same, ok⟩ := decides.success result found
    obtain rfl := Option.some.inj (decided.symm.trans same)
    exact ok

/-- A result that passes and still ends the loop is a wanted one. -/
theorem Decides.wanted_of_passed (decides : Decides onReady wanted passed)
    (decided : onReady result = some status) (passing : passed result) : wanted result := by
  by_contra other
  have undecided := decides.goesOn result passing other
  rw [decided] at undecided
  cases undecided

/-- The loop returns a success exactly when a turn receives a wanted result after turns
that pass. -/
theorem pollUntil_succeeds_iff (decides : Decides onReady wanted passed)
    (turns : List (PollTurn M)) :
    (pollUntil endTime updateTime onReady turns).Succeeds ↔
      ReceivedAmong (PollTurn.Receives endTime) wanted passed turns := by
  induction turns with
  | nil => simp [pollUntil, HelperRun.Succeeds]
  | cons turn rest ih =>
      rw [receivedAmong_cons]
      rcases pollUntil_cases endTime onReady turn with
        ⟨result, status, received, decided⟩ | ⟨result, received, undecided⟩ | timedOut
      · rw [pollUntil_returns received decided]
        constructor
        · rintro ⟨_, returned, ok⟩
          obtain rfl := Option.some.inj returned
          exact .inl ⟨result, received, (decides.ok_iff decided).mp ok⟩
        · rintro (⟨other, got, found⟩ | ⟨⟨other, got, passing⟩, _⟩)
          · obtain rfl := received.unique got
            exact ⟨status, rfl, (decides.ok_iff decided).mpr found⟩
          · obtain rfl := received.unique got
            have found := decides.wanted_of_passed decided passing
            exact ⟨status, rfl, (decides.ok_iff decided).mpr found⟩
      · obtain ⟨sleepTime, ran⟩ := pollUntil_continues updateTime rest received undecided
        rw [ran]
        constructor
        · intro succeeds
          exact .inr ⟨⟨result, received, decides.passes _ undecided⟩, ih.mp succeeds⟩
        · rintro (⟨other, got, found⟩ | ⟨_, later⟩)
          · obtain rfl := received.unique got
            obtain ⟨_, same, _⟩ := decides.success _ found
            rw [undecided] at same
            cases same
          · exact ih.mpr later
      · constructor
        · rintro ⟨status, returned, ok⟩
          rw [pollUntil_timesOut timedOut] at returned
          obtain rfl := Option.some.inj returned
          cases ok
        · rintro (⟨result, got, _⟩ | ⟨⟨result, got, _⟩, _⟩)
          · exact absurd got (timedOut result)
          · exact absurd got (timedOut result)

/-- What a loop returns as a success, it made of the result it received last. -/
theorem pollUntil_success_received
    (h : (pollUntil endTime updateTime onReady turns).status = some status)
    (ok : status.ok = true) :
    ∃ before result, (pollUntil endTime updateTime onReady turns).events =
        before ++ [.request, .received result] ∧ onReady result = some status := by
  induction turns with
  | nil => simp [pollUntil] at h
  | cons turn rest ih =>
      rcases pollUntil_cases endTime onReady turn with
        ⟨result, status', received, decided⟩ | ⟨result, received, undecided⟩ | timedOut
      · rw [pollUntil_returns received decided] at h ⊢
        obtain rfl := Option.some.inj h
        exact ⟨[], result, rfl, decided⟩
      · obtain ⟨sleepTime, ran⟩ := pollUntil_continues updateTime rest received undecided
        rw [ran] at h ⊢
        obtain ⟨before, last, events, decided⟩ := ih h
        refine ⟨.request :: .received result :: .sleepFor sleepTime :: before, last, ?_,
          decided⟩
        simp [events]
      · rw [pollUntil_timesOut timedOut] at h
        obtain rfl := Option.some.inj h
        cases ok

/-- The loop is left at the latest when it reads the deadline. -/
theorem pollUntil_ends (h : ∃ turn ∈ turns, endTime ≤ nsecToSec turn.loopClock) :
    ∃ status, (pollUntil endTime updateTime onReady turns).status = some status := by
  induction turns with
  | nil => simp at h
  | cons turn rest ih =>
      rcases pollUntil_cases endTime onReady turn with
        ⟨result, status, received, decided⟩ | ⟨result, received, undecided⟩ | timedOut
      · exact ⟨status, by rw [pollUntil_returns received decided]⟩
      · obtain ⟨last, member, late⟩ := h
        obtain ⟨sleepTime, ran⟩ := pollUntil_continues updateTime rest received undecided
        rw [ran]
        apply ih
        rcases List.mem_cons.mp member with rfl | member
        · exact absurd received.1 (not_lt.mpr late)
        · exact ⟨last, member, late⟩
      · exact ⟨commandTimedOutError, pollUntil_timesOut timedOut⟩

end Loop

end SpotSdk.Client
