import SpotSdk.Common.ResponseProcessing

/-!
# The E-Stop endpoint

The endpoint registers with the robot and checks in at a stop level. Each check-in
answers the challenge of the one before. A call lists the check-ins it makes, so that
runs of calls can be followed.
-/

namespace SpotSdk.Client

open Common

/-- `google::protobuf::Duration`. -/
structure ProtoDuration where
  seconds : Int := 0
  nanos : Int := 0
  deriving DecidableEq, Repr

/-- `TimeUtil::NanosecondsToDuration`. -/
def nanosecondsToDuration (nanos : Int) : ProtoDuration :=
  ⟨nanos.tdiv 1000000000, nanos.tmod 1000000000⟩

/-- `TimeUtil::DurationToNanoseconds`. -/
def durationToNanoseconds (duration : ProtoDuration) : Int :=
  duration.seconds * 1000000000 + duration.nanos

/-- The endpoint message. -/
structure EstopEndpointProto where
  role : String := ""
  name : String := ""
  uniqueId : String := ""
  timeout : ProtoDuration := {}
  cutPowerTimeout : Option ProtoDuration := none
  deriving DecidableEq, Repr

inductive EstopStopLevel
  | unknown
  | cut
  | settleThenCut
  | none
  deriving DecidableEq, Repr

structure EstopCheckInRequest where
  endpoint : EstopEndpointProto
  challenge : BitVec 64
  response : BitVec 64
  stopLevel : EstopStopLevel
  deriving DecidableEq, Repr

structure EstopCheckInResponse where
  header : ResponseHeader := {}
  challenge : BitVec 64 := 0
  status : Int := 0
  deriving DecidableEq, Repr, Inhabited

structure RegisterEstopEndpointResponse where
  newEndpoint : EstopEndpointProto := {}
  deriving DecidableEq, Repr

structure EstopConfig where
  endpoints : List EstopEndpointProto := []
  uniqueId : String := ""
  deriving DecidableEq, Repr

structure EstopConfigResponse where
  activeConfig : EstopConfig := {}
  deriving DecidableEq, Repr

structure GetEstopSystemStatusResponse where
  endpoints : List EstopEndpointProto := []
  deriving DecidableEq, Repr

def estopCheckInStatusCategory : ErrorCategory := ⟨"EstopCheckInResponse_Status", [1]⟩

/-- How a check-in ends. -/
abbrev CheckInOutcome := RpcOutcome EstopCheckInResponse

abbrev EstopProcessorChain := List (ResponseProcessor EstopCheckInResponse)

/-- The result of `EstopClient::EstopCheckIn`. -/
def estopCheckIn (chain : EstopProcessorChain) (outcome : CheckInOutcome) :
    Result EstopCheckInResponse :=
  outcome.result chain EstopCheckInResponse.header fun response =>
    ⟨estopCheckInStatusCategory, response.status⟩

/-- The members of the endpoint; the challenge is a C++ `int`. -/
structure EstopEndpoint where
  endpointName : String
  estopTimeout : Int
  estopCutPowerTimeout : Int := 0
  lockedFirstCheckin : Bool := true
  endpointRole : String := "PDB_rooted"
  uniqueId : String := ""
  configId : String := ""
  challenge : BitVec 32 := 0
  deriving DecidableEq, Repr

/-- A check-in: the endpoint that makes it, its level and how it ends. -/
structure CheckIn where
  endpoint : EstopEndpoint
  stopLevel : EstopStopLevel
  outcome : CheckInOutcome
  deriving DecidableEq

/-- What a call leaves behind and returns, and the check-ins it made. -/
structure EstopCallResult where
  endpoint : EstopEndpoint
  status : Status
  checkIns : List CheckIn
  deriving DecidableEq

namespace EstopEndpoint

variable (endpoint : EstopEndpoint)

def toProto : EstopEndpointProto where
  role := endpoint.endpointRole
  name := endpoint.endpointName
  uniqueId := endpoint.uniqueId
  timeout := nanosecondsToDuration endpoint.estopTimeout
  cutPowerTimeout :=
    if endpoint.estopCutPowerTimeout > 0 then
      some (nanosecondsToDuration endpoint.estopCutPowerTimeout)
    else .none

def fromProto (proto : EstopEndpointProto) : EstopEndpoint :=
  { endpoint with
    endpointName := proto.name
    endpointRole := proto.role
    uniqueId := proto.uniqueId
    estopTimeout := durationToNanoseconds proto.timeout
    estopCutPowerTimeout :=
      match proto.cutPowerTimeout with
      | some timeout => durationToNanoseconds timeout
      | .none => endpoint.estopCutPowerTimeout }

def generateChallengeResponse (challenge : BitVec 32) : BitVec 32 :=
  ~~~challenge

def getResponse : BitVec 32 :=
  if endpoint.challenge = 0 then endpoint.challenge
  else generateChallengeResponse endpoint.challenge

/-- `MakeCheckInRequest`: the `int` arguments are extended to `uint64` fields. -/
def makeCheckInRequest (stopLevel : EstopStopLevel) (challenge response : BitVec 32) :
    EstopCheckInRequest where
  endpoint := endpoint.toProto
  challenge := challenge.signExtend 64
  response := response.signExtend 64
  stopLevel := stopLevel

/-- `SetChallenge` with a `uint64` argument converted to `int`. -/
def setChallenge (challenge : BitVec 64) : EstopEndpoint :=
  { endpoint with challenge := challenge.setWidth 32 }

def setFirstCheckIn (value : Bool) : EstopEndpoint :=
  { endpoint with lockedFirstCheckin := value }

def success : Status := ⟨SDKErrorCode.success.code, ""⟩

/-- The part of `CheckInAtLevel` after the RPC. -/
def onCheckInResult (results : Result EstopCheckInResponse) : EstopEndpoint × Status :=
  if endpoint.lockedFirstCheckin then
    -- Any status is ignored at the first check-in.
    ((endpoint.setChallenge results.response.challenge).setFirstCheckIn false, success)
  else if results.status.ok then
    ((endpoint.setChallenge results.response.challenge).setFirstCheckIn false, success)
  else (endpoint, results.status)

def checkInAtLevel (chain : EstopProcessorChain) (stopLevel : EstopStopLevel)
    (outcome : CheckInOutcome) : EstopCallResult :=
  let after := endpoint.onCheckInResult (estopCheckIn chain outcome)
  ⟨after.1, after.2, [⟨endpoint, stopLevel, outcome⟩]⟩

def stop (chain : EstopProcessorChain) (outcome : CheckInOutcome) : EstopCallResult :=
  endpoint.checkInAtLevel chain .cut outcome

def settleThenCut (chain : EstopProcessorChain) (outcome : CheckInOutcome) :
    EstopCallResult :=
  endpoint.checkInAtLevel chain .settleThenCut outcome

def allow (chain : EstopProcessorChain) (outcome : CheckInOutcome) : EstopCallResult :=
  endpoint.checkInAtLevel chain .none outcome

/-- A call that returns without a check-in. -/
def returns (status : Status) : EstopCallResult :=
  ⟨endpoint, status, []⟩

def register (chain : EstopProcessorChain) (targetConfigId : String)
    (newEndpoint : Result RegisterEstopEndpointResponse) (outcome : CheckInOutcome) :
    EstopCallResult :=
  if !newEndpoint.ok then endpoint.returns newEndpoint.status
  else
    ({ endpoint with configId := targetConfigId }.fromProto
      newEndpoint.response.newEndpoint).stop chain outcome

def forceSimpleSetup (chain : EstopProcessorChain) (activeConfig : Result EstopConfigResponse)
    (setConfig : Result EstopConfigResponse)
    (newEndpoint : Result RegisterEstopEndpointResponse) (outcome : CheckInOutcome) :
    EstopCallResult :=
  if !activeConfig.ok then endpoint.returns activeConfig.status
  else if !setConfig.status.ok then endpoint.returns setConfig.status
  else
    match setConfig.response.activeConfig.endpoints with
    | [] => endpoint.returns ⟨SDKErrorCode.genericSDKError.code,
        "Force Simple Setup failed to find any existing endpoint configs on the robot."⟩
    | configured :: _ =>
        { endpoint with uniqueId := configured.uniqueId }.register chain
          setConfig.response.activeConfig.uniqueId newEndpoint outcome

def takeOverSimpleSetup (name : String) (estopConfig : Result EstopConfigResponse)
    (estopStatus : Result GetEstopSystemStatusResponse) : EstopCallResult :=
  if !estopConfig.ok then endpoint.returns estopConfig.status
  else if !estopStatus.ok then endpoint.returns estopStatus.status
  else if estopConfig.response.activeConfig.uniqueId = "" then
    endpoint.returns ⟨SDKErrorCode.genericSDKError.code,
      "TakeOverSimpleSetup failed, missing unique_id"⟩
  else
    match estopStatus.response.endpoints with
    | [found] =>
        if found.name ≠ name then
          endpoint.returns ⟨SDKErrorCode.genericSDKError.code,
            "TakeOverSimpleSetup failed, wrong endpoint name"⟩
        else
          ({ endpoint with configId := estopConfig.response.activeConfig.uniqueId }.fromProto
            found).returns success
    | _ => endpoint.returns ⟨SDKErrorCode.genericSDKError.code,
        "TakeOverSimpleSetup failed, expected 1 endpoint"⟩

def deregister (result : Status) : EstopCallResult :=
  endpoint.returns result

end EstopEndpoint

/-- A public call of the endpoint with what its RPCs give. -/
inductive EstopCall
  | checkInAtLevel (stopLevel : EstopStopLevel) (outcome : CheckInOutcome)
  | stop (outcome : CheckInOutcome)
  | settleThenCut (outcome : CheckInOutcome)
  | allow (outcome : CheckInOutcome)
  | register (targetConfigId : String) (newEndpoint : Result RegisterEstopEndpointResponse)
      (outcome : CheckInOutcome)
  | forceSimpleSetup (activeConfig setConfig : Result EstopConfigResponse)
      (newEndpoint : Result RegisterEstopEndpointResponse) (outcome : CheckInOutcome)
  | takeOverSimpleSetup (name : String) (estopConfig : Result EstopConfigResponse)
      (estopStatus : Result GetEstopSystemStatusResponse)
  | deregister (result : Status)
  deriving DecidableEq

def EstopCall.perform (chain : EstopProcessorChain) (endpoint : EstopEndpoint) :
    EstopCall → EstopCallResult
  | checkInAtLevel stopLevel outcome => endpoint.checkInAtLevel chain stopLevel outcome
  | stop outcome => endpoint.stop chain outcome
  | settleThenCut outcome => endpoint.settleThenCut chain outcome
  | allow outcome => endpoint.allow chain outcome
  | register targetConfigId newEndpoint outcome =>
      endpoint.register chain targetConfigId newEndpoint outcome
  | forceSimpleSetup activeConfig setConfig newEndpoint outcome =>
      endpoint.forceSimpleSetup chain activeConfig setConfig newEndpoint outcome
  | takeOverSimpleSetup name estopConfig estopStatus =>
      endpoint.takeOverSimpleSetup name estopConfig estopStatus
  | deregister result => endpoint.deregister result

/-- The check-ins of a list of calls, in order. -/
def checkIns (chain : EstopProcessorChain) (endpoint : EstopEndpoint) :
    List EstopCall → List CheckIn
  | [] => []
  | call :: calls =>
      let result := call.perform chain endpoint
      result.checkIns ++ checkIns chain result.endpoint calls

/-- The request of a check-in. -/
def CheckIn.request (checkIn : CheckIn) : EstopCheckInRequest :=
  checkIn.endpoint.makeCheckInRequest checkIn.stopLevel checkIn.endpoint.challenge
    checkIn.endpoint.getResponse

/-- The endpoint after a check-in and the status the check-in returns. -/
def CheckIn.result (chain : EstopProcessorChain) (checkIn : CheckIn) :
    EstopEndpoint × Status :=
  checkIn.endpoint.onCheckInResult (estopCheckIn chain checkIn.outcome)

namespace EstopEndpoint

variable {endpoint : EstopEndpoint} {chain : EstopProcessorChain}

/-- Two endpoints with the same challenge and the same first check-in flag. -/
def SameChallenge (a b : EstopEndpoint) : Prop :=
  a.challenge = b.challenge ∧ a.lockedFirstCheckin = b.lockedFirstCheckin

theorem checkInAtLevel_cases {before : EstopEndpoint} {stopLevel : EstopStopLevel}
    {outcome : CheckInOutcome} (h : SameChallenge endpoint before) :
    ∃ checkIn : CheckIn, SameChallenge checkIn.endpoint before ∧
      endpoint.checkInAtLevel chain stopLevel outcome =
        ⟨(checkIn.result chain).1, (checkIn.result chain).2, [checkIn]⟩ :=
  ⟨⟨endpoint, stopLevel, outcome⟩, h, rfl⟩

/-- A registration fails before its check-in or ends with it. -/
theorem register_cases {before : EstopEndpoint} {target : String}
    {newEndpoint : Result RegisterEstopEndpointResponse} {outcome : CheckInOutcome}
    (h : SameChallenge endpoint before) :
    (SameChallenge (endpoint.register chain target newEndpoint outcome).endpoint before ∧
        (endpoint.register chain target newEndpoint outcome).checkIns = []) ∨
      ∃ checkIn : CheckIn, SameChallenge checkIn.endpoint before ∧
        endpoint.register chain target newEndpoint outcome =
          ⟨(checkIn.result chain).1, (checkIn.result chain).2, [checkIn]⟩ := by
  simp only [register]
  split
  · exact Or.inl ⟨h, rfl⟩
  · exact Or.inr (checkInAtLevel_cases h)

/-- Every call checks in once, as its last step, or not at all; before that it leaves
the challenge alone. -/
theorem perform_cases (chain : EstopProcessorChain) (endpoint : EstopEndpoint)
    (call : EstopCall) :
    (SameChallenge (call.perform chain endpoint).endpoint endpoint ∧
        (call.perform chain endpoint).checkIns = []) ∨
      ∃ checkIn : CheckIn, SameChallenge checkIn.endpoint endpoint ∧
        call.perform chain endpoint =
          ⟨(checkIn.result chain).1, (checkIn.result chain).2, [checkIn]⟩ := by
  cases call with
  | checkInAtLevel stopLevel outcome => exact Or.inr (checkInAtLevel_cases ⟨rfl, rfl⟩)
  | stop outcome => exact Or.inr (checkInAtLevel_cases ⟨rfl, rfl⟩)
  | settleThenCut outcome => exact Or.inr (checkInAtLevel_cases ⟨rfl, rfl⟩)
  | allow outcome => exact Or.inr (checkInAtLevel_cases ⟨rfl, rfl⟩)
  | register target newEndpoint outcome => exact register_cases ⟨rfl, rfl⟩
  | forceSimpleSetup activeConfig setConfig newEndpoint outcome =>
      simp only [EstopCall.perform, forceSimpleSetup]
      split
      · exact Or.inl ⟨⟨rfl, rfl⟩, rfl⟩
      · split
        · exact Or.inl ⟨⟨rfl, rfl⟩, rfl⟩
        · split
          · exact Or.inl ⟨⟨rfl, rfl⟩, rfl⟩
          · exact register_cases ⟨rfl, rfl⟩
  | takeOverSimpleSetup name estopConfig estopStatus =>
      simp only [EstopCall.perform, takeOverSimpleSetup]
      split
      · exact Or.inl ⟨⟨rfl, rfl⟩, rfl⟩
      · split
        · exact Or.inl ⟨⟨rfl, rfl⟩, rfl⟩
        · split
          · exact Or.inl ⟨⟨rfl, rfl⟩, rfl⟩
          · split
            · split
              · exact Or.inl ⟨⟨rfl, rfl⟩, rfl⟩
              · exact Or.inl ⟨⟨rfl, rfl⟩, rfl⟩
            · exact Or.inl ⟨⟨rfl, rfl⟩, rfl⟩
  | deregister result => exact Or.inl ⟨⟨rfl, rfl⟩, rfl⟩

end EstopEndpoint

end SpotSdk.Client
