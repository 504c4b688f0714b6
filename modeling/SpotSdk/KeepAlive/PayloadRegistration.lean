import SpotSdk.Robot.TokenSession

/-!
# The keep-alive of a payload registration

The thread of the `PayloadRegistrationKeepAlive` registers its payload again and again.
A payload that is registered already counts as registered.
-/

namespace SpotSdk.Client

open SpotSdk.Common

/-- The category of `RegisterPayloadResponse::Status`. -/
def registerPayloadStatusCategory : ErrorCategory := ⟨"RegisterPayloadResponse_Status", [1]⟩

/-- `RegisterPayloadResponse::STATUS_ALREADY_EXISTS`. -/
def payloadAlreadyExists : ErrorCode := ⟨registerPayloadStatusCategory, 2⟩

/-- Where the thread of a payload registration is. -/
inductive PayloadPoint
  | registering
  | failed (status : Status)
  | waiting
  | stopped
  deriving DecidableEq, Repr

/-- The members that the constructor sets for good. Of the callback, only whether it is
set. Intervals are in nanoseconds. -/
structure PayloadRegistrationKeepAlive where
  rpcInterval : Int := 30000000000
  waitTime : Int := 1000000000
  registrationInitialRetryInterval : Int := 1000000000
  errorCallback : Bool := false
  deriving DecidableEq, Repr

/-- The other members, and the locals of the thread. -/
structure PayloadReregistration where
  isAlive : Bool := true
  waitTime : Int
  retryInterval : Int
  point : PayloadPoint := .registering
  deriving DecidableEq, Repr

/-- What the service and the callback answer. -/
inductive PayloadEvent
  | registered (status : Status)
  | registerFailed (status : Status)
  | errorCallback (received : Status) (answer : Option ErrorCallbackResult)
  | noErrorCallback
  | waitForInterval (interval : Int) (again : Bool)

namespace PayloadRegistrationKeepAlive

variable (keepAlive : PayloadRegistrationKeepAlive)

/-- The thread as it begins. -/
def started : PayloadReregistration where
  waitTime := keepAlive.waitTime
  retryInterval := keepAlive.registrationInitialRetryInterval

/-- Wait for a whole interval, with the first retry interval again. -/
def resume (s : PayloadReregistration) : PayloadReregistration :=
  { s with
    waitTime := keepAlive.rpcInterval
    retryInterval := keepAlive.registrationInitialRetryInterval
    point := .waiting }

/-- What the thread does after a failure, for each action. -/
def act (s : PayloadReregistration) : ErrorCallbackResult → PayloadReregistration
  | .abort => { s with isAlive := false, point := .stopped }
  | .retryImmediately => { s with waitTime := 0, point := .waiting }
  | .retryWithExponentialBackOff =>
      { s with
        waitTime := s.retryInterval
        retryInterval := min (s.retryInterval * 2) keepAlive.rpcInterval
        point := .waiting }
  | .defaultAction => keepAlive.resume s
  | .resumeNormalOperation => keepAlive.resume s

/-- `WaitForInterval` returned; the loop goes on or ends. -/
def waited (s : PayloadReregistration) (again : Bool) : PayloadReregistration :=
  if again then { s with point := .registering }
  else { s with isAlive := false, point := .stopped }

/-- Whether the thread takes the answer for a registration. -/
def accepted (status : Status) : Bool :=
  status.ok || status.code == payloadAlreadyExists

/-- One event, at the point where it can happen. -/
def step (s : PayloadReregistration) (e : PayloadEvent) : Option PayloadReregistration :=
  match s.point, e with
  | .registering, .registered status =>
      if accepted status then some (keepAlive.resume s) else none
  | .registering, .registerFailed status =>
      if accepted status then none else some { s with point := .failed status }
  | .failed status, .errorCallback received answer =>
      if keepAlive.errorCallback = true ∧ received = status then
        some (keepAlive.act s (answer.getD .resumeNormalOperation))
      else none
  | .failed _, .noErrorCallback =>
      if keepAlive.errorCallback then none else some (keepAlive.act s .resumeNormalOperation)
  | .waiting, .waitForInterval interval again =>
      if interval = s.waitTime then some (waited s again) else none
  | _, _ => none

/-- The steps of the thread, one for each event. -/
inductive Takes (s : PayloadReregistration) : PayloadEvent → PayloadReregistration → Prop
  | registered {status} : Takes s (.registered status) (keepAlive.resume s)
  | registerFailed {status} : Takes s (.registerFailed status) { s with point := .failed status }
  | errorCallback {received answer} :
      Takes s (.errorCallback received answer)
        (keepAlive.act s (answer.getD .resumeNormalOperation))
  | noErrorCallback : Takes s .noErrorCallback (keepAlive.act s .resumeNormalOperation)
  | waitForInterval {again} : Takes s (.waitForInterval s.waitTime again) (waited s again)

variable {keepAlive} {s t : PayloadReregistration} {e : PayloadEvent}

theorem step_cases (hstep : keepAlive.step s e = some t) : keepAlive.Takes s e t := by
  unfold step at hstep
  split at hstep
  case h_1 =>
    split_ifs at hstep
    exact Option.some.inj hstep ▸ .registered
  case h_2 =>
    split_ifs at hstep
    exact Option.some.inj hstep ▸ .registerFailed
  case h_3 =>
    split_ifs at hstep
    exact Option.some.inj hstep ▸ .errorCallback
  case h_4 =>
    split_ifs at hstep
    exact Option.some.inj hstep ▸ .noErrorCallback
  case h_5 interval again place =>
    split_ifs at hstep with known
    subst known
    exact Option.some.inj hstep ▸ .waitForInterval
  case h_6 => cases hstep

end PayloadRegistrationKeepAlive

end SpotSdk.Client
