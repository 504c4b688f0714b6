import SpotSdk.Estop.EstopEndpoint

/-!
# What an endpoint adopts

`Register` and `TakeOverSimpleSetup` take over the endpoint message of the robot by
`FromProto`, and every check-in sends `ToProto`. The two are inverse to each other but for
the timeout to cut power, which is kept when the message has none.
-/

namespace SpotSdk.Client

open Common

/-- A valid duration whose nanoseconds an `int64` holds. -/
structure ProtoDuration.Valid (duration : ProtoDuration) : Prop where
  seconds : -315576000000 ≤ duration.seconds ∧ duration.seconds ≤ 315576000000
  nanos : -1000000000 < duration.nanos ∧ duration.nanos < 1000000000
  signs : 0 ≤ duration.seconds ∧ 0 ≤ duration.nanos ∨
    duration.seconds ≤ 0 ∧ duration.nanos ≤ 0
  fits : -9223372036854775808 ≤ durationToNanoseconds duration ∧
    durationToNanoseconds duration ≤ 9223372036854775807

/-- The timeouts of an endpoint message are valid, and that to cut power is positive if the
message has one. -/
structure EstopEndpointProto.Valid (proto : EstopEndpointProto) : Prop where
  timeout : proto.timeout.Valid
  cutPowerTimeout : ∀ timeout, proto.cutPowerTimeout = some timeout →
    timeout.Valid ∧ 0 < durationToNanoseconds timeout

/-- A valid duration is what its nanoseconds are converted to. -/
theorem ProtoDuration.Valid.round_trip {duration : ProtoDuration} (valid : duration.Valid) :
    nanosecondsToDuration (durationToNanoseconds duration) = duration := by
  obtain ⟨seconds, nanos⟩ := duration
  have bounds := valid.nanos
  have split : (durationToNanoseconds ⟨seconds, nanos⟩).tdiv 1000000000 = seconds ∧
      (durationToNanoseconds ⟨seconds, nanos⟩).tmod 1000000000 = nanos := by
    simp only [durationToNanoseconds] at bounds ⊢
    rcases valid.signs with ⟨first, second⟩ | ⟨first, second⟩
    · apply (Int.tdiv_tmod_unique (by simp only at first second; omega) (by decide)).mpr
      simp only at second
      omega
    · apply (Int.tdiv_tmod_unique' (by simp only at first second; omega) (by decide)).mpr
      simp only at second
      omega
  rw [nanosecondsToDuration, split.1, split.2]

namespace EstopEndpoint

variable {endpoint : EstopEndpoint} {proto : EstopEndpointProto} {chain : EstopProcessorChain}

/-- What an endpoint sends after it has adopted a valid message: the message, if it has a
timeout to cut power or the endpoint had none. -/
theorem toProto_fromProto_iff (valid : proto.Valid) (endpoint : EstopEndpoint) :
    (endpoint.fromProto proto).toProto = proto ↔
      proto.cutPowerTimeout ≠ none ∨ endpoint.estopCutPowerTimeout ≤ 0 := by
  obtain ⟨role, name, uniqueId, timeout, cutPowerTimeout⟩ := proto
  have restored := valid.timeout.round_trip
  cases cutPowerTimeout with
  | none =>
      simp only at restored
      simp only [toProto, fromProto, restored, EstopEndpointProto.mk.injEq, true_and, ne_eq,
        not_true_eq_false, false_or]
      by_cases positive : endpoint.estopCutPowerTimeout > 0
      · simp [positive]
      · simp [positive, Int.not_lt.mp positive]
  | some cutTimeout =>
      obtain ⟨validCut, positive⟩ := valid.cutPowerTimeout cutTimeout rfl
      simp only at restored
      simp [toProto, fromProto, restored, validCut.round_trip, positive]

end EstopEndpoint

/-- The conditions under which `TakeOverSimpleSetup` takes over an endpoint. -/
def TakesOver (name : String) (estopConfig : Result EstopConfigResponse)
    (estopStatus : Result GetEstopSystemStatusResponse) (proto : EstopEndpointProto) : Prop :=
  estopConfig.ok = true ∧ estopStatus.ok = true ∧
    estopConfig.response.activeConfig.uniqueId ≠ "" ∧
    estopStatus.response.endpoints = [proto] ∧ proto.name = name

namespace EstopCall

/-- The call adopts an endpoint message of the robot. -/
def Adopts (proto : EstopEndpointProto) : EstopCall → Prop
  | register _ newEndpoint _ =>
      newEndpoint.ok = true ∧ newEndpoint.response.newEndpoint = proto
  | takeOverSimpleSetup name estopConfig estopStatus =>
      TakesOver name estopConfig estopStatus proto
  | _ => False

/-- The call leaves the settings of the endpoint alone. -/
def KeepsSettings : EstopCall → Prop
  | register _ newEndpoint _ => newEndpoint.ok = false
  | takeOverSimpleSetup name estopConfig estopStatus =>
      ∀ proto, ¬TakesOver name estopConfig estopStatus proto
  | forceSimpleSetup _ _ _ _ => False
  | _ => True

end EstopCall

/-- The endpoint after a call and those of its check-ins send one message. -/
structure EstopCallResult.Sends (result : EstopCallResult) (proto : EstopEndpointProto) :
    Prop where
  after : result.endpoint.toProto = proto
  checkIns : ∀ checkIn ∈ result.checkIns, checkIn.endpoint.toProto = proto

section Calls

variable {endpoint : EstopEndpoint} {proto : EstopEndpointProto} {chain : EstopProcessorChain}

theorem EstopEndpoint.returns_sends (endpoint : EstopEndpoint) (status : Status) :
    (endpoint.returns status).Sends endpoint.toProto := by
  constructor
  · rfl
  · intro checkIn member
    cases member

/-- A check-in changes the challenge of the endpoint and its first check-in flag. -/
theorem EstopEndpoint.onCheckInResult_toProto (endpoint : EstopEndpoint)
    (results : Result EstopCheckInResponse) :
    (endpoint.onCheckInResult results).1.toProto = endpoint.toProto := by
  unfold onCheckInResult
  split
  · rfl
  · split
    · rfl
    · rfl

theorem EstopEndpoint.checkInAtLevel_sends (endpoint : EstopEndpoint)
    (chain : EstopProcessorChain) (stopLevel : EstopStopLevel) (outcome : CheckInOutcome) :
    (endpoint.checkInAtLevel chain stopLevel outcome).Sends endpoint.toProto := by
  constructor
  · exact endpoint.onCheckInResult_toProto _
  · intro checkIn member
    obtain rfl := List.mem_singleton.mp member
    rfl

/-- A set-up that does not take over an endpoint returns before it changes anything. -/
theorem EstopEndpoint.takeOverSimpleSetup_sends (endpoint : EstopEndpoint) {name : String}
    {estopConfig : Result EstopConfigResponse}
    {estopStatus : Result GetEstopSystemStatusResponse}
    (refused : ∀ proto, ¬TakesOver name estopConfig estopStatus proto) :
    (endpoint.takeOverSimpleSetup name estopConfig estopStatus).Sends endpoint.toProto := by
  unfold takeOverSimpleSetup
  split
  · exact endpoint.returns_sends _
  · rename_i configured
    split
    · exact endpoint.returns_sends _
    · rename_i answered
      split
      · exact endpoint.returns_sends _
      · rename_i identified
        split
        · rename_i found listed
          split
          · exact endpoint.returns_sends _
          · rename_i named
            refine absurd ?_ (refused found)
            simp only [Bool.not_eq_true', Bool.not_eq_false] at configured answered
            exact ⟨configured, answered, identified, listed, Decidable.not_not.mp named⟩
        · exact endpoint.returns_sends _

theorem EstopCall.KeepsSettings.sends {call : EstopCall} (keeps : call.KeepsSettings)
    (chain : EstopProcessorChain) (endpoint : EstopEndpoint) :
    (call.perform chain endpoint).Sends endpoint.toProto := by
  cases call with
  | checkInAtLevel stopLevel outcome => exact endpoint.checkInAtLevel_sends chain _ outcome
  | stop outcome => exact endpoint.checkInAtLevel_sends chain _ outcome
  | settleThenCut outcome => exact endpoint.checkInAtLevel_sends chain _ outcome
  | allow outcome => exact endpoint.checkInAtLevel_sends chain _ outcome
  | register target newEndpoint outcome =>
      have failed : newEndpoint.ok = false := keeps
      rw [perform, EstopEndpoint.register, failed]
      exact endpoint.returns_sends _
  | forceSimpleSetup activeConfig setConfig newEndpoint outcome => cases keeps
  | takeOverSimpleSetup name estopConfig estopStatus =>
      exact endpoint.takeOverSimpleSetup_sends keeps
  | deregister result => exact endpoint.returns_sends result

/-- An adopted message is followed by what the endpoint makes of it. -/
theorem EstopCall.Adopts.sends {call : EstopCall} (adopts : call.Adopts proto)
    (chain : EstopProcessorChain) (endpoint : EstopEndpoint) :
    (call.perform chain endpoint).Sends (endpoint.fromProto proto).toProto := by
  cases call with
  | register target newEndpoint outcome =>
      obtain ⟨ok, rfl⟩ := adopts
      rw [perform, EstopEndpoint.register, ok]
      exact EstopEndpoint.checkInAtLevel_sends
        (EstopEndpoint.fromProto { endpoint with configId := target } _) chain .cut outcome
  | takeOverSimpleSetup name estopConfig estopStatus =>
      obtain ⟨configured, answered, identified, listed, named⟩ := adopts
      simp only [perform, EstopEndpoint.takeOverSimpleSetup, configured, answered, identified,
        listed, named, Bool.not_true, Bool.false_eq_true, if_false, ne_eq, not_true_eq_false]
      exact EstopEndpoint.returns_sends (EstopEndpoint.fromProto { endpoint with
        configId := estopConfig.response.activeConfig.uniqueId } proto) EstopEndpoint.success
  | _ => cases adopts

/-- All check-ins of calls that leave the settings alone send the same message. -/
theorem checkIns_toProto {calls : List EstopCall} (keep : ∀ call ∈ calls, call.KeepsSettings)
    (chain : EstopProcessorChain) (endpoint : EstopEndpoint) :
    ∀ checkIn ∈ checkIns chain endpoint calls, checkIn.endpoint.toProto = endpoint.toProto := by
  induction calls generalizing endpoint with
  | nil =>
      intro checkIn member
      cases member
  | cons call calls ih =>
      have sends := (keep call List.mem_cons_self).sends chain endpoint
      have later := ih (fun other member => keep other (List.mem_cons_of_mem call member))
        (call.perform chain endpoint).endpoint
      intro checkIn member
      rcases List.mem_append.mp member with now | after
      · exact sends.checkIns checkIn now
      · exact (later checkIn after).trans sends.after

/-- The endpoint restores a message it adopts, and every check-in sends the message from
its adoption to the next set-up. -/
structure AdoptsExactly (chain : EstopProcessorChain) (endpoint : EstopEndpoint)
    (proto : EstopEndpointProto) : Prop where
  restored : (endpoint.fromProto proto).toProto = proto
  sent : ∀ call : EstopCall, call.Adopts proto →
    ∀ calls : List EstopCall, (∀ later ∈ calls, later.KeepsSettings) →
    ∀ checkIn ∈ checkIns chain endpoint (call :: calls), checkIn.request.endpoint = proto

/-- A valid message is adopted exactly if it has a timeout to cut power or the endpoint had
none before. -/
theorem adoptsExactly_iff (valid : proto.Valid) (chain : EstopProcessorChain)
    (endpoint : EstopEndpoint) :
    AdoptsExactly chain endpoint proto ↔
      proto.cutPowerTimeout ≠ none ∨ endpoint.estopCutPowerTimeout ≤ 0 := by
  rw [← EstopEndpoint.toProto_fromProto_iff valid endpoint]
  constructor
  · intro adopts
    exact adopts.restored
  · intro restored
    refine ⟨restored, ?_⟩
    intro call adopts calls keep checkIn member
    have sends := adopts.sends chain endpoint
    rcases List.mem_append.mp member with now | after
    · exact (sends.checkIns checkIn now).trans restored
    · have later := checkIns_toProto keep chain (call.perform chain endpoint).endpoint
      exact (later checkIn after).trans (sends.after.trans restored)

end Calls

/-- An endpoint message with a timeout of five seconds and none to cut power. -/
def fiveSecondEndpoint : EstopEndpointProto where
  role := "PDB_rooted"
  name := "tablet"
  uniqueId := "e1"
  timeout := ⟨5, 0⟩

theorem fiveSecondEndpoint_valid : fiveSecondEndpoint.Valid where
  timeout := ⟨by decide, by decide, by decide, by decide⟩
  cutPowerTimeout := by
    intro timeout none
    cases none

/-- A new endpoint adopts the message. -/
theorem adoptsExactly_newEndpoint :
    AdoptsExactly [] { endpointName := "tablet", estopTimeout := 9000000000 }
      fiveSecondEndpoint := by
  apply (adoptsExactly_iff fiveSecondEndpoint_valid [] _).mpr
  exact .inr (by decide)

/-- An endpoint that was set up with three seconds to cut power. -/
def cutPowerEndpoint : EstopEndpoint where
  endpointName := "tablet"
  estopTimeout := 9000000000
  estopCutPowerTimeout := 3000000000

/-- The endpoint keeps its three seconds, and sends them. -/
theorem cutPowerEndpoint_not_adoptsExactly :
    (cutPowerEndpoint.fromProto fiveSecondEndpoint).toProto =
        { fiveSecondEndpoint with cutPowerTimeout := some ⟨3, 0⟩ } ∧
      ¬AdoptsExactly [] cutPowerEndpoint fiveSecondEndpoint := by
  have kept : (cutPowerEndpoint.fromProto fiveSecondEndpoint).toProto =
      { fiveSecondEndpoint with cutPowerTimeout := some ⟨3, 0⟩ } := by decide
  refine ⟨kept, ?_⟩
  intro adopts
  have restored := adopts.restored
  rw [kept] at restored
  exact absurd restored (by decide)

end SpotSdk.Client
