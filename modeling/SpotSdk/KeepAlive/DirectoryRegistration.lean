import SpotSdk.Robot.TokenSession

/-!
# The keep-alive of a directory registration

The thread of the `DirectoryRegistrationKeepAlive` registers its service again and again,
or updates it if it is there already, and waits after each iteration. The outcome of an
RPC comes with that of the call to the fault service that follows it.
-/

namespace SpotSdk.Client

open SpotSdk.Common

/-- The category of `RegisterServiceResponse::Status`. -/
def registerServiceStatusCategory : ErrorCategory := ⟨"RegisterServiceResponse_Status", [1]⟩

/-- `RegisterServiceResponse::STATUS_ALREADY_EXISTS`. -/
def serviceAlreadyExists : ErrorCode := ⟨registerServiceStatusCategory, 2⟩

/-- `ClearServiceFaultResponse::STATUS_FAULT_NOT_ACTIVE`. -/
def statusFaultNotActive : Int := 2

/-- Where the thread of a registration is. After a failure it holds the status that the
error callback is called with. -/
inductive ReregisterPoint
  | constructed
  | registering
  | updating (resRegister : Status)
  | failed (passed : Status)
  | waiting
  | stopped
  deriving DecidableEq, Repr

/-- The members that the constructor sets for good. Of the fault client and the callback,
only whether they are set. Intervals are in nanoseconds. -/
structure DirectoryRegistrationKeepAlive where
  registrationInterval : Int := 30000000000
  registrationInitialRetryInterval : Int := 1000000000
  faultClient : Bool := false
  errorCallback : Bool := false
  deriving DecidableEq, Repr

/-- The other members, and the locals of the thread. -/
structure DirectoryReregistration where
  registrationFaultActive : Bool := false
  threadStopped : Bool := true
  retryInterval : Int
  waitInterval : Int
  point : ReregisterPoint := .constructed
  deriving DecidableEq, Repr

/-- What the services and the callback answer. A trigger or a clear that is not made does
not succeed. -/
inductive DirectoryEvent
  | start (clearResult : Option (Result Int))
  | registered
  | alreadyExists (status : Status)
  | registerFailed (status : Status) (triggered : Bool)
  | updated (cleared : Bool)
  | updateFailed (status : Status) (triggered : Bool)
  | errorCallback (received : Status) (answer : Option ErrorCallbackResult)
  | noErrorCallback
  | waitForInterval (interval : Int) (again : Bool)

namespace DirectoryRegistrationKeepAlive

variable (keepAlive : DirectoryRegistrationKeepAlive)

/-- Before `Start`, with the values that the thread gives its locals. -/
def constructed : DirectoryReregistration where
  retryInterval := keepAlive.registrationInitialRetryInterval
  waitInterval := keepAlive.registrationInterval

/-- `Start`, with the result of clearing the fault if there is a fault client. -/
def start (s : DirectoryReregistration) (clearResult : Option (Result Int)) :
    DirectoryReregistration :=
  let active :=
    match clearResult with
    | none => false
    | some clearResult => !clearResult.ok && clearResult.response != statusFaultNotActive
  { s with registrationFaultActive := active, threadStopped := false, point := .registering }

/-- A failure branch up to the error callback, which is called with the given status. -/
def failure (s : DirectoryReregistration) (passed : Status) (triggered : Bool) :
    DirectoryReregistration :=
  { s with
    registrationFaultActive := s.registrationFaultActive || triggered
    point := .failed passed }

/-- The rest of a failure branch, for each action. -/
def act (s : DirectoryReregistration) : ErrorCallbackResult → DirectoryReregistration
  | .abort => { s with threadStopped := true, point := .stopped }
  | .retryImmediately => { s with waitInterval := 0, point := .waiting }
  | .retryWithExponentialBackOff =>
      { s with
        waitInterval := s.retryInterval
        retryInterval := min (s.retryInterval * 2) keepAlive.registrationInterval
        point := .waiting }
  | .defaultAction => { s with waitInterval := keepAlive.registrationInterval, point := .waiting }
  | .resumeNormalOperation =>
      { s with waitInterval := keepAlive.registrationInterval, point := .waiting }

theorem act_point (s : DirectoryReregistration) (action : ErrorCallbackResult) :
    (keepAlive.act s action).point = .waiting ∨
      (keepAlive.act s action).point = .stopped := by
  cases action
  case abort => exact .inr rfl
  all_goals exact .inl rfl

/-- A successful registration. It leaves the retry interval as it is. -/
def registered (s : DirectoryReregistration) : DirectoryReregistration :=
  { s with
    registrationFaultActive := false
    waitInterval := keepAlive.registrationInterval
    point := .waiting }

/-- A successful update. -/
def updated (s : DirectoryReregistration) (cleared : Bool) : DirectoryReregistration :=
  { s with
    registrationFaultActive := s.registrationFaultActive && !cleared
    waitInterval := keepAlive.registrationInterval
    retryInterval := keepAlive.registrationInitialRetryInterval
    point := .waiting }

/-- `WaitForInterval` returned; the loop goes on or ends. -/
def waited (s : DirectoryReregistration) (again : Bool) : DirectoryReregistration :=
  if again then { s with point := .registering }
  else { s with threadStopped := true, point := .stopped }

/-- One event, at the point where it can happen. -/
def step (s : DirectoryReregistration) (e : DirectoryEvent) : Option DirectoryReregistration :=
  match s.point, e with
  | .constructed, .start clearResult =>
      if clearResult.isSome = keepAlive.faultClient then some (start s clearResult) else none
  | .registering, .registered => some (keepAlive.registered s)
  | .registering, .alreadyExists status =>
      if status.ok = false ∧ status.code = serviceAlreadyExists then
        some { s with point := .updating status }
      else none
  | .registering, .registerFailed status triggered =>
      if status.ok = false ∧ status.code ≠ serviceAlreadyExists ∧
          (triggered → keepAlive.faultClient) then
        some (failure s status triggered)
      else none
  | .updating _, .updated cleared =>
      if cleared → keepAlive.faultClient then some (keepAlive.updated s cleared) else none
  | .updating resRegister, .updateFailed status triggered =>
      -- The callback is called with the status of the registration here too.
      if status.ok = false ∧ (triggered → keepAlive.faultClient) then
        some (failure s resRegister triggered)
      else none
  | .failed passed, .errorCallback received answer =>
      if keepAlive.errorCallback = true ∧ received = passed then
        some (keepAlive.act s (answer.getD .resumeNormalOperation))
      else none
  | .failed _, .noErrorCallback =>
      if keepAlive.errorCallback then none else some (keepAlive.act s .resumeNormalOperation)
  | .waiting, .waitForInterval interval again =>
      if interval = s.waitInterval then some (waited s again) else none
  | _, _ => none

/-- The steps of the thread, one for each event. -/
inductive Takes (s : DirectoryReregistration) :
    DirectoryEvent → DirectoryReregistration → Prop
  | start {clearResult} (place : s.point = .constructed)
      (client : clearResult.isSome = keepAlive.faultClient) :
      Takes s (.start clearResult) (DirectoryRegistrationKeepAlive.start s clearResult)
  | registered (place : s.point = .registering) :
      Takes s .registered (keepAlive.registered s)
  | alreadyExists {status} (place : s.point = .registering)
      (code : status.code = serviceAlreadyExists) :
      Takes s (.alreadyExists status) { s with point := .updating status }
  | registerFailed {status triggered} (place : s.point = .registering)
      (code : status.code ≠ serviceAlreadyExists) :
      Takes s (.registerFailed status triggered) (failure s status triggered)
  | updated {resRegister cleared} (place : s.point = .updating resRegister) :
      Takes s (.updated cleared) (keepAlive.updated s cleared)
  | updateFailed {resRegister status triggered} (place : s.point = .updating resRegister) :
      Takes s (.updateFailed status triggered) (failure s resRegister triggered)
  | errorCallback {passed answer} (place : s.point = .failed passed) :
      Takes s (.errorCallback passed answer)
        (keepAlive.act s (answer.getD .resumeNormalOperation))
  | noErrorCallback {passed} (place : s.point = .failed passed) :
      Takes s .noErrorCallback (keepAlive.act s .resumeNormalOperation)
  | waitForInterval {again} (place : s.point = .waiting) :
      Takes s (.waitForInterval s.waitInterval again) (waited s again)

variable {keepAlive} {s t : DirectoryReregistration} {e : DirectoryEvent}

theorem step_cases (hstep : keepAlive.step s e = some t) : keepAlive.Takes s e t := by
  unfold step at hstep
  split at hstep
  case h_1 clearResult place =>
    split_ifs at hstep with client
    exact Option.some.inj hstep ▸ .start place client
  case h_2 place => exact Option.some.inj hstep ▸ .registered place
  case h_3 status place =>
    split_ifs at hstep with known
    exact Option.some.inj hstep ▸ .alreadyExists place known.2
  case h_4 status triggered place =>
    split_ifs at hstep with known
    exact Option.some.inj hstep ▸ .registerFailed place known.2.1
  case h_5 resRegister cleared place =>
    split_ifs at hstep
    exact Option.some.inj hstep ▸ .updated place
  case h_6 resRegister status triggered place =>
    split_ifs at hstep
    exact Option.some.inj hstep ▸ .updateFailed place
  case h_7 passed received answer place =>
    split_ifs at hstep with known
    obtain ⟨_, rfl⟩ := known
    exact Option.some.inj hstep ▸ .errorCallback place
  case h_8 passed place =>
    split_ifs at hstep
    exact Option.some.inj hstep ▸ .noErrorCallback place
  case h_9 interval again place =>
    split_ifs at hstep with known
    subst known
    exact Option.some.inj hstep ▸ .waitForInterval place
  case h_10 => cases hstep

end DirectoryRegistrationKeepAlive

end SpotSdk.Client
