import Mathlib.Logic.Function.Basic
import SpotSdk.Foundations.LabelledRuns
import SpotSdk.TimeSync.TimeSyncEndpoint

/-!
# Estimates by several threads

Any number of threads call `GetNewEstimate` on one endpoint. `Update` reads the clock
identifier under the lock and the previous round trip without it, and the state is
updated in a block of its own.

## Implementation notes

The state keeps the outcomes that were recorded and the requests that were sent. No
step reads them.
-/

namespace SpotSdk.Client.TimeSync

open Foundations Common TimeSyncEndpoint

variable {ι : Type} [DecidableEq ι]

/-- Where a thread is in `GetNewEstimate`. -/
inductive EstimatePoint
  | idle
  | identified (clockIdResult : PointerResult String)
  | sending (request : TimeSyncUpdateRequest)
  | waiting
  | updating (updateResult : TimeSyncUpdateResult) (rxTime : Timestamp)

inductive EstimateStep (ι : Type)
  | readIdentifier (thread : ι)
  | readRoundTrip (thread : ι)
  | send (thread : ι)
  | answer (thread : ι) (updateResult : TimeSyncUpdateResult) (rxTime : Timestamp)
  | update (thread : ι)

structure Estimating (ι : Type) where
  endpoint : TimeSyncEndpoint := {}
  at' : ι → EstimatePoint := fun _ => .idle
  recorded : Outcomes := []
  sent : List TimeSyncUpdateRequest := []

namespace Estimating

def goto (s : Estimating ι) (thread : ι) (point : EstimatePoint) : Estimating ι :=
  { s with at' := Function.update s.at' thread point }

def step (s : Estimating ι) : EstimateStep ι → Option (Estimating ι)
  | .readIdentifier thread =>
      match s.at' thread with
      | .idle => some (s.goto thread (.identified s.endpoint.getClockIdentifier))
      | _ => none
  -- the member is only read where the identifier was
  | .readRoundTrip thread =>
      match s.at' thread with
      | .identified clockIdResult =>
          some (s.goto thread (.sending (updateRequest clockIdResult s.endpoint.previousRoundTrip)))
      | _ => none
  | .send thread =>
      match s.at' thread with
      | .sending request => some { s.goto thread .waiting with sent := s.sent ++ [request] }
      | _ => none
  | .answer thread updateResult rxTime =>
      match s.at' thread with
      | .waiting =>
          if !updateResult.status.ok then some (s.goto thread .idle)
          else some (s.goto thread (.updating updateResult rxTime))
      | _ => none
  | .update thread =>
      match s.at' thread with
      | .updating updateResult rxTime =>
          some { s.goto thread .idle with
            endpoint := updateState updateResult rxTime
            recorded := s.recorded ++ [(updateResult, rxTime)] }
      | _ => none

end Estimating

/-- A request with an identifier has the round trip recorded with it, and one without
has none. -/
def Matched (recorded : Outcomes) (request : TimeSyncUpdateRequest) : Prop :=
  (request.clockIdentifier ≠ "" → ∃ outcome ∈ recorded,
    request.clockIdentifier = outcome.1.response.clockIdentifier ∧
      request.previousRoundTrip = some (roundTripOf outcome.1.response outcome.2)) ∧
  (request.clockIdentifier = "" → request.previousRoundTrip = none)

instance instDecidableMatched (recorded : Outcomes) (request : TimeSyncUpdateRequest) :
    Decidable (Matched recorded request) :=
  inferInstanceAs (Decidable (_ ∧ _))

/-- No thread replaced the identifier since the thread read it that now reads the round
trip. -/
def Undisturbed (s : Estimating ι) : EstimateStep ι → Prop
  | .readRoundTrip thread => ∀ clockIdResult, s.at' thread = .identified clockIdResult →
      clockIdResult.status.ok = true → s.endpoint.getClockIdentifier = clockIdResult
  | _ => True

section Requests

variable {recorded : Outcomes}

theorem Matched.mono {request : TimeSyncUpdateRequest} (h : Matched recorded request)
    (outcome : TimeSyncUpdateResult × Timestamp) : Matched (recorded ++ [outcome]) request := by
  refine ⟨?_, h.2⟩
  intro identified
  obtain ⟨found, member, same⟩ := h.1 identified
  exact ⟨found, List.mem_append_left _ member, same⟩

theorem updateRequest_failed {clockIdResult : PointerResult String}
    (h : clockIdResult.status.ok = false) (roundTrip : TimeSyncRoundTrip) :
    updateRequest clockIdResult roundTrip = {} := by
  obtain ⟨status, response⟩ := clockIdResult
  cases response with
  | none => rfl
  | some clockIdentifier =>
      have failed : status.ok = false := h
      simp [updateRequest, failed]

theorem matched_empty : Matched recorded {} :=
  ⟨fun h => absurd rfl h, fun _ => rfl⟩

/-- Both parts read in one state of the endpoint belong together. -/
theorem matched_updateRequest {endpoint : TimeSyncEndpoint}
    (h : endpoint = {} ∨ ∃ outcome ∈ recorded, endpoint = updateState outcome.1 outcome.2) :
    Matched recorded (updateRequest endpoint.getClockIdentifier endpoint.previousRoundTrip) := by
  by_cases unset : endpoint.clockIdentifier = ""
  · have failed : endpoint.getClockIdentifier.status.ok = false := by
      rw [getClockIdentifier, if_pos unset]
      decide
    rw [updateRequest_failed failed]
    exact matched_empty
  · rcases h with rfl | ⟨outcome, member, rfl⟩
    · exact absurd rfl unset
    · rw [getClockIdentifier, if_neg unset]
      refine ⟨fun _ => ⟨outcome, member, rfl, rfl⟩, ?_⟩
      intro empty
      exact absurd empty unset

end Requests

/-- What holds of the endpoint, the threads and the requests in every state reached by
undisturbed steps. -/
structure Consistent (s : Estimating ι) : Prop where
  endpoint : s.endpoint = {} ∨
    ∃ outcome ∈ s.recorded, s.endpoint = updateState outcome.1 outcome.2
  sending : ∀ thread request, s.at' thread = .sending request → Matched s.recorded request
  sent : ∀ request ∈ s.sent, Matched s.recorded request

namespace Consistent

variable {s t : Estimating ι}

omit [DecidableEq ι] in
theorem start : Consistent ({} : Estimating ι) :=
  ⟨.inl rfl, fun _ _ h => by simp at h, fun _ h => absurd h List.not_mem_nil⟩

/-- A thread may go to any point whose request is matched. -/
theorem goto (h : Consistent s) (thread : ι) {point : EstimatePoint}
    (matched : ∀ request, point = .sending request → Matched s.recorded request) :
    Consistent (s.goto thread point) := by
  refine ⟨h.endpoint, ?_, h.sent⟩
  intro other request sending
  by_cases same : other = thread
  · subst same
    exact matched request (by simpa [Estimating.goto] using sending)
  · exact h.sending other request (by simpa [Estimating.goto, same] using sending)

theorem step (h : Consistent s) {e : EstimateStep ι}
    (next : Guard (StepOf Estimating.step) Undisturbed s e t) : Consistent t := by
  obtain ⟨next, undisturbed⟩ := next
  cases e with
  | readIdentifier thread =>
      simp only [StepOf, Estimating.step] at next
      split at next
      · obtain rfl := Option.some.inj next
        exact h.goto thread (by simp)
      · simp at next
  | readRoundTrip thread =>
      simp only [StepOf, Estimating.step] at next
      split at next
      · rename_i clockIdResult here
        obtain rfl := Option.some.inj next
        apply h.goto thread
        rintro request same
        obtain rfl := EstimatePoint.sending.inj same
        cases ok : clockIdResult.status.ok with
        | false =>
            rw [updateRequest_failed ok]
            exact matched_empty
        | true =>
            rw [← undisturbed clockIdResult here ok]
            exact matched_updateRequest h.endpoint
      · simp at next
  | send thread =>
      simp only [StepOf, Estimating.step] at next
      split at next
      · rename_i request here
        obtain rfl := Option.some.inj next
        have moved : Consistent (s.goto thread .waiting) := h.goto thread (by simp)
        refine ⟨moved.endpoint, moved.sending, ?_⟩
        intro other member
        rcases List.mem_append.mp member with before | last
        · exact h.sent other before
        · rw [List.mem_singleton.mp last]
          exact h.sending thread request here
      · simp at next
  | answer thread updateResult rxTime =>
      simp only [StepOf, Estimating.step] at next
      split at next
      · split at next <;> obtain rfl := Option.some.inj next
        · exact h.goto thread (by simp)
        · exact h.goto thread (by simp)
      · simp at next
  | update thread =>
      simp only [StepOf, Estimating.step] at next
      split at next
      · rename_i updateResult rxTime here
        obtain rfl := Option.some.inj next
        have moved : Consistent (s.goto thread .idle) := h.goto thread (by simp)
        refine ⟨.inr ⟨_, List.mem_append_right _ (List.mem_singleton_self _), rfl⟩, ?_, ?_⟩
        · intro other request sending
          exact (moved.sending other request sending).mono _
        · intro request member
          exact (h.sent request member).mono _
      · simp at next

end Consistent

/-- In every run of undisturbed steps all requests that were sent are matched. -/
theorem undisturbed_matched {es : List (EstimateStep ι)} {s : Estimating ι}
    (run : Run (Guard (StepOf Estimating.step) Undisturbed) {} es s) :
    ∀ request ∈ s.sent, Matched s.recorded request :=
  (run.invariant Consistent.start (fun h next => h.step next)).sent

/-- A response that assigns a clock identifier. -/
def assigned (clockIdentifier : String) (responseTime : Timestamp) : TimeSyncUpdateResult :=
  ⟨⟨SDKErrorCode.success.code, ""⟩,
    { responseTimestamp := responseTime, clockIdentifier := clockIdentifier }⟩

/-- The request that carries an identifier with the round trip of a response. -/
def identifiedRequest (clockIdentifier : String) (updateResult : TimeSyncUpdateResult) :
    TimeSyncUpdateRequest :=
  ⟨some (roundTripOf updateResult.response {}), clockIdentifier⟩

/-- Two threads that are assigned different identifiers, and whose next updates begin
after both outcomes are recorded. -/
def settledClocks : List (EstimateStep Bool) :=
  [.readIdentifier true, .readIdentifier false, .readRoundTrip false, .readRoundTrip true,
    .send true, .send false, .answer true (assigned "a" { seconds := 1 }) {},
    .answer false (assigned "b" { seconds := 2 }) {}, .update true, .update false,
    .readIdentifier false, .readIdentifier true, .readRoundTrip true, .readRoundTrip false,
    .send false, .send true]

theorem undisturbed_matched_settledClocks :
    ∃ s, Run (StepOf Estimating.step) {} settledClocks s ∧
      s.sent = [{}, {}, identifiedRequest "b" (assigned "b" { seconds := 2 }),
        identifiedRequest "b" (assigned "b" { seconds := 2 })] ∧
      ∀ request ∈ s.sent, Matched s.recorded request := by
  have run : ∃ s, Run (Guard (StepOf Estimating.step) Undisturbed) {} settledClocks s ∧
      s.sent = [{}, {}, identifiedRequest "b" (assigned "b" { seconds := 2 }),
        identifiedRequest "b" (assigned "b" { seconds := 2 })] := by
    refine ⟨_, .cons ⟨rfl, trivial⟩ (.cons ⟨rfl, trivial⟩ (.cons ⟨rfl, ?_⟩ (.cons ⟨rfl, ?_⟩
      (.cons ⟨rfl, trivial⟩ (.cons ⟨rfl, trivial⟩ (.cons ⟨rfl, trivial⟩ (.cons ⟨rfl, trivial⟩
      (.cons ⟨rfl, trivial⟩ (.cons ⟨rfl, trivial⟩ (.cons ⟨rfl, trivial⟩ (.cons ⟨rfl, trivial⟩
      (.cons ⟨rfl, ?_⟩ (.cons ⟨rfl, ?_⟩ (.cons ⟨rfl, trivial⟩ (.cons ⟨rfl, trivial⟩
      (.nil _)))))))))))))))), rfl⟩ <;>
    · rintro _ same _
      exact EstimatePoint.identified.inj same
  obtain ⟨s, run, sent⟩ := run
  exact ⟨s, run.mono fun h => h.1, sent, undisturbed_matched run⟩

/-- Two threads that are assigned different identifiers: the second one's outcome is
recorded between the two reads of the first one's next update. -/
def twoClocks : List (EstimateStep Bool) :=
  [.readIdentifier true, .readRoundTrip true, .send true,
    .readIdentifier false, .readRoundTrip false, .send false,
    .answer true (assigned "a" { seconds := 1 }) {}, .update true,
    .answer false (assigned "b" { seconds := 2 }) {},
    .readIdentifier true, .update false, .readRoundTrip true, .send true]

theorem twoClocks_not_matched :
    ∃ s, Run (StepOf Estimating.step) {} twoClocks s ∧
      ¬∀ request ∈ s.sent, Matched s.recorded request := by
  have run : ∃ s, Run (StepOf Estimating.step) {} twoClocks s ∧
      s.recorded = [(assigned "a" { seconds := 1 }, {}), (assigned "b" { seconds := 2 }, {})] ∧
      s.sent = [{}, {}, identifiedRequest "a" (assigned "b" { seconds := 2 })] :=
    ⟨_, .cons rfl (.cons rfl (.cons rfl (.cons rfl (.cons rfl (.cons rfl (.cons rfl (.cons rfl
      (.cons rfl (.cons rfl (.cons rfl (.cons rfl (.cons rfl (.nil _))))))))))))), rfl, rfl⟩
  obtain ⟨s, run, recorded, sent⟩ := run
  refine ⟨s, run, ?_⟩
  rw [recorded, sent]
  decide

end SpotSdk.Client.TimeSync
