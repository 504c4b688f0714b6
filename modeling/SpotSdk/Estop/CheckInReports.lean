import SpotSdk.Estop.EstopEndpoint

/-!
# What a check-in reports

A check-in should report success only for a level the robot has answered, and a failed
RPC should change nothing. The first check-in of an endpoint reports success whatever
happens to its RPC.
-/

namespace SpotSdk.Client

open Common

/-- A check-in succeeds only when the robot answered it, and without an answer it
leaves the challenge and the first check-in flag as they were. -/
structure ReportsAnswer (chain : EstopProcessorChain) (checkIn : CheckIn) : Prop where
  success : (checkIn.result chain).2.ok = true → checkIn.outcome.Answered
  unchanged : ¬ checkIn.outcome.Answered →
    EstopEndpoint.SameChallenge (checkIn.result chain).1 checkIn.endpoint

/-- The stop level a call commands. -/
def EstopCall.level : EstopCall → Option EstopStopLevel
  | checkInAtLevel stopLevel _ => some stopLevel
  | stop _ => some .cut
  | settleThenCut _ => some .settleThenCut
  | allow _ => some .none
  | register .. => some .cut
  | forceSimpleSetup .. => some .cut
  | takeOverSimpleSetup .. => none
  | deregister _ => none

/-- A call that commands a level succeeds only when the robot answered a check-in of
the call at that level. -/
def CallReportsAnswer (chain : EstopProcessorChain) (endpoint : EstopEndpoint)
    (call : EstopCall) : Prop :=
  ∀ stopLevel, call.level = some stopLevel → (call.perform chain endpoint).status.ok = true →
    ∃ checkIn ∈ (call.perform chain endpoint).checkIns,
      checkIn.stopLevel = stopLevel ∧ checkIn.outcome.Answered

/-- The endpoint after a list of calls. -/
def afterCalls (chain : EstopProcessorChain) (endpoint : EstopEndpoint)
    (calls : List EstopCall) : EstopEndpoint :=
  calls.foldl (fun endpoint call => (call.perform chain endpoint).endpoint) endpoint

/-- What a run of calls promises about its check-ins and its calls. -/
structure RunReportsAnswers (chain : EstopProcessorChain) (endpoint : EstopEndpoint)
    (calls : List EstopCall) : Prop where
  checkIns : ∀ checkIn ∈ checkIns chain endpoint calls, ReportsAnswer chain checkIn
  calls : ∀ before call after, calls = before ++ call :: after →
    CallReportsAnswer chain (afterCalls chain endpoint before) call

variable {chain : EstopProcessorChain} {endpoint : EstopEndpoint} {call : EstopCall}
  {stopLevel : EstopStopLevel} {checkIn : CheckIn}

/-- A check-in reports the answer exactly when there is one or it is not the first. -/
theorem reportsAnswer_iff (chain : EstopProcessorChain) (checkIn : CheckIn) :
    ReportsAnswer chain checkIn ↔
      checkIn.outcome.Answered ∨ checkIn.endpoint.lockedFirstCheckin = false := by
  constructor
  · intro h
    cases hfirst : checkIn.endpoint.lockedFirstCheckin with
    | false => exact Or.inr rfl
    | true =>
        have hok : (checkIn.result chain).2.ok = true := by
          simp only [CheckIn.result, EstopEndpoint.onCheckInResult, hfirst, if_true]
          rfl
        exact Or.inl (h.success hok)
  · intro h
    by_cases hanswered : checkIn.outcome.Answered
    · exact ⟨fun _ => hanswered, fun hnot => absurd hanswered hnot⟩
    · have hfirst := h.resolve_left hanswered
      have hfail : (estopCheckIn chain checkIn.outcome).status.ok = false := by
        rw [Bool.eq_false_iff]
        intro hok
        exact hanswered (RpcOutcome.answered_of_ok hok)
      have hresult : checkIn.result chain =
          (checkIn.endpoint, (estopCheckIn chain checkIn.outcome).status) := by
        simp [CheckIn.result, EstopEndpoint.onCheckInResult, hfirst, hfail]
      constructor
      · intro hok
        rw [hresult, hfail] at hok
        cases hok
      · intro _
        rw [hresult]
        exact ⟨rfl, rfl⟩

/-- A registration that succeeds stopped the robot with one check-in. -/
theorem register_checkIns {target : String}
    {newEndpoint : Result RegisterEstopEndpointResponse} {outcome : CheckInOutcome}
    (hok : (endpoint.register chain target newEndpoint outcome).status.ok = true) :
    ∃ checkIn : CheckIn,
      (endpoint.register chain target newEndpoint outcome).checkIns = [checkIn] ∧
      checkIn.stopLevel = .cut ∧
      (endpoint.register chain target newEndpoint outcome).status =
        (checkIn.result chain).2 := by
  simp only [EstopEndpoint.register] at hok ⊢
  split at hok
  · next hfail =>
      have hstatus : newEndpoint.ok = true := hok
      rw [hstatus] at hfail
      cases hfail
  · next hregistered =>
      rw [if_neg hregistered]
      exact ⟨⟨_, .cut, outcome⟩, rfl, rfl, rfl⟩

/-- A call that commands a level and succeeds made one check-in at that level and
returned its status. -/
theorem checkIns_of_level_ok (hlevel : call.level = some stopLevel)
    (hok : (call.perform chain endpoint).status.ok = true) :
    ∃ checkIn : CheckIn, (call.perform chain endpoint).checkIns = [checkIn] ∧
      checkIn.stopLevel = stopLevel ∧
      (call.perform chain endpoint).status = (checkIn.result chain).2 := by
  cases call with
  | checkInAtLevel level outcome =>
      exact ⟨⟨endpoint, level, outcome⟩, rfl, Option.some.inj hlevel, rfl⟩
  | stop outcome => exact ⟨⟨endpoint, .cut, outcome⟩, rfl, Option.some.inj hlevel, rfl⟩
  | settleThenCut outcome =>
      exact ⟨⟨endpoint, .settleThenCut, outcome⟩, rfl, Option.some.inj hlevel, rfl⟩
  | allow outcome => exact ⟨⟨endpoint, .none, outcome⟩, rfl, Option.some.inj hlevel, rfl⟩
  | register target newEndpoint outcome =>
      obtain rfl := Option.some.inj hlevel
      exact register_checkIns hok
  | forceSimpleSetup activeConfig setConfig newEndpoint outcome =>
      obtain rfl := Option.some.inj hlevel
      simp only [EstopCall.perform, EstopEndpoint.forceSimpleSetup] at hok ⊢
      split at hok
      · next hfail =>
          have hstatus : activeConfig.ok = true := hok
          rw [hstatus] at hfail
          cases hfail
      · next hconfig =>
          rw [if_neg hconfig]
          split at hok
          · next hfail =>
              have hstatus : setConfig.status.ok = true := hok
              rw [hstatus] at hfail
              cases hfail
          · next hset =>
              rw [if_neg hset]
              split at hok
              · have hgeneric : false = true := hok
                cases hgeneric
              · exact register_checkIns hok
  | takeOverSimpleSetup name estopConfig estopStatus => cases hlevel
  | deregister result => cases hlevel

/-- A call whose check-ins report their answers reports the answer itself. -/
theorem callReportsAnswer_of_checkIns
    (h : ∀ checkIn ∈ (call.perform chain endpoint).checkIns, ReportsAnswer chain checkIn) :
    CallReportsAnswer chain endpoint call := by
  intro stopLevel hlevel hok
  obtain ⟨checkIn, hcheckIns, hstop, hstatus⟩ := checkIns_of_level_ok hlevel hok
  have hmem : checkIn ∈ (call.perform chain endpoint).checkIns := by
    rw [hcheckIns]
    exact List.mem_singleton_self checkIn
  rw [hstatus] at hok
  exact ⟨checkIn, hmem, hstop, (h checkIn hmem).success hok⟩

/-- The check-ins of a call in the middle of a run are check-ins of the run. -/
theorem mem_checkIns_of_call {calls before after : List EstopCall}
    (heq : calls = before ++ call :: after)
    (hmem : checkIn ∈ (call.perform chain (afterCalls chain endpoint before)).checkIns) :
    checkIn ∈ checkIns chain endpoint calls := by
  subst heq
  induction before generalizing endpoint with
  | nil => exact List.mem_append_left _ hmem
  | cons first before ih => exact List.mem_append_right _ (ih hmem)

/-- A run reports its answers exactly when the robot answers every first check-in. -/
theorem runReportsAnswers_iff (chain : EstopProcessorChain) (endpoint : EstopEndpoint)
    (calls : List EstopCall) :
    RunReportsAnswers chain endpoint calls ↔
      ∀ checkIn ∈ checkIns chain endpoint calls,
        checkIn.outcome.Answered ∨ checkIn.endpoint.lockedFirstCheckin = false := by
  constructor
  · intro h checkIn hmem
    exact (reportsAnswer_iff chain checkIn).mp (h.checkIns checkIn hmem)
  · intro h
    have hreports : ∀ checkIn ∈ checkIns chain endpoint calls, ReportsAnswer chain checkIn :=
      fun checkIn hmem => (reportsAnswer_iff chain checkIn).mpr (h checkIn hmem)
    refine ⟨hreports, fun before call after heq => ?_⟩
    apply callReportsAnswer_of_checkIns
    intro checkIn hmem
    exact hreports checkIn (mem_checkIns_of_call heq hmem)

/-- The channel to the robot is down. -/
def unavailable : CheckInOutcome :=
  .failed { errorCode := .unavailable } rfl

/-- A stop that never reached the robot reports success. -/
theorem not_runReportsAnswers_unavailable :
    ¬ RunReportsAnswers [commonResponseProcessor]
      { endpointName := "estop", estopTimeout := 0 } [.stop unavailable] := by
  intro h
  exact (h.checkIns _ (List.mem_singleton_self _)).success (by decide)

end SpotSdk.Client
