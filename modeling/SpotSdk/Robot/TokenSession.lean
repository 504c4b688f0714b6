import Mathlib.Logic.Function.Basic
import SpotSdk.Common.Status
import SpotSdk.Foundations.LabelledRuns

/-!
# Logins and the refresh of the user token

Callers log in while the thread of the `TokenManager` refreshes the token. Reading the
token, the RPC, storing its answer and updating the token cache are separate steps of
both.
-/

namespace SpotSdk.Client

open Foundations Common

variable {ι : Type*}

inductive ErrorCallbackResult
  | defaultAction
  | retryImmediately
  | retryWithExponentialBackOff
  | resumeNormalOperation
  | abort
  deriving DecidableEq, Repr

/-- What a login authenticates with. -/
inductive Credentials
  | password (username password : String)
  | token (token : String)
  deriving DecidableEq, Repr

/-- The user name that is handed to `UpdateUserToken`. -/
def Credentials.username : Credentials → String
  | password username _ => username
  | token _ => ""

/-- Where a caller is in `Authenticate` or `AuthenticateWithToken`. -/
inductive Login
  | idle
  | authenticating (credentials : Credentials)
  | storing (token username : String)
  | caching (username : String)
  deriving DecidableEq, Repr

/-- Where the refresh thread is in `TokenManager::Update`. -/
inductive RefreshLoop
  | waiting
  | authenticating (token : String)
  | storing (token : String)
  | caching
  | calling (status : Status)
  | leaving
  | left
  deriving DecidableEq, Repr

/-- The members of the `TokenManager` and the locals of its thread. Of the callback,
only whether it is set. Intervals are in nanoseconds. -/
structure TokenManager where
  refreshInterval : Int := 3600000000000
  initialRetryInterval : Int := 1000000000
  callback : Bool
  isAlive : Bool := true
  retryInterval : Int := 1000000000
  waitInterval : Int := 3600000000000
  loop : RefreshLoop := .waiting
  deriving DecidableEq, Repr

/-- The value of `GetAuthTokenResponse::STATUS_INVALID_TOKEN`. -/
def statusInvalidToken : Int := 3

namespace TokenManager

/-- Wait for a whole interval, with the first retry interval again. -/
def resumeNormalOperation (manager : TokenManager) : TokenManager :=
  { manager with
    retryInterval := manager.initialRetryInterval
    waitInterval := manager.refreshInterval
    loop := .waiting }

/-- What the thread does on each answer about a failed refresh. -/
def react (manager : TokenManager) : ErrorCallbackResult → TokenManager
  | .defaultAction =>
      { manager with
        waitInterval := manager.retryInterval
        retryInterval := min (manager.retryInterval * 2) manager.refreshInterval
        loop := .waiting }
  | .retryWithExponentialBackOff =>
      { manager with
        waitInterval := manager.retryInterval
        retryInterval := min (manager.retryInterval * 2) manager.refreshInterval
        loop := .waiting }
  | .abort => { manager with loop := .leaving }
  | .resumeNormalOperation => manager.resumeNormalOperation
  | .retryImmediately => { manager with waitInterval := 0, loop := .waiting }

/-- A refresh that failed. Only the value of its code is compared. -/
def failed (manager : TokenManager) (status : Status) : TokenManager :=
  if status.code.value = statusInvalidToken ∧ manager.callback then
    { manager with loop := .calling status }
  else manager.react .retryWithExponentialBackOff

/-- The callback answered, or threw. -/
def called (manager : TokenManager) (answer : Option ErrorCallbackResult) : TokenManager :=
  manager.react (answer.getD .retryWithExponentialBackOff)

/-- The end of `Update`. -/
def leave (manager : TokenManager) : TokenManager :=
  { manager with isAlive := false, loop := .left }

end TokenManager

/-- A call of `TokenCache::write`, with the user the key is made of. -/
structure CacheWrite where
  user : String
  key : String
  token : String
  deriving DecidableEq, Repr

/-- The members of a `Robot` that logins and refreshes use, and where each caller is. -/
structure RobotSession (ι : Type*) where
  userToken : String := ""
  tokenManager : Option TokenManager := none
  currentUser : String := ""
  serialNumber : String := ""
  errorCallback : Bool := false
  cacheWrites : List CacheWrite := []
  logins : ι → Login := fun _ => .idle
  destroyed : Bool := false

/-- The steps of the callers and of the refresh thread. -/
inductive SessionEvent (ι : Type*)
  | authenticate (i : ι) (credentials : Credentials)
  | loginFailed (i : ι) (status : Status)
  | loginAnswered (i : ι) (token : String)
  | storeLogin (i : ι)
  | cacheLogin (i : ι)
  | readToken
  | refreshFailed (status : Status)
  | refreshAnswered (token : String)
  | storeRefresh
  | cacheRefresh
  | callbackAnswered (answer : Option ErrorCallbackResult)
  | leaveLoop
  | setTokenRefreshErrorCallback (callback : Bool)
  | destroy

namespace RobotSession

/-- `GetTokenId`. -/
def getTokenId (s : RobotSession ι) (username : String) : String :=
  s.serialNumber ++ "." ++ username

/-- `SetUserToken`. -/
def setUserToken (s : RobotSession ι) (userToken : String) : RobotSession ι :=
  { s with userToken := userToken }

/-- The first part of `UpdateTokenCache`, which makes the manager if there is none. -/
def ensureTokenManager (s : RobotSession ι) : RobotSession ι :=
  match s.tokenManager with
  | none => { s with tokenManager := some { callback := s.errorCallback } }
  | some _ => s

/-- The last part: the token is written under the key of the current user, if any. -/
def writeTokenCache (s : RobotSession ι) : RobotSession ι :=
  if s.currentUser ≠ "" then
    { s with cacheWrites :=
        s.cacheWrites ++ [⟨s.currentUser, s.getTokenId s.currentUser, s.userToken⟩] }
  else s

/-- `UpdateTokenCache`. -/
def updateTokenCache (s : RobotSession ι) (username : String) : RobotSession ι :=
  let s := s.ensureTokenManager
  let s := if username ≠ "" then { s with currentUser := username } else s
  s.writeTokenCache

section Steps

variable [DecidableEq ι]

def setLogin (s : RobotSession ι) (i : ι) (login : Login) : RobotSession ι :=
  { s with logins := Function.update s.logins i login }

/-- A step of the refresh thread from the place it is at. -/
def setManager (s : RobotSession ι) (manager : TokenManager) : RobotSession ι :=
  { s with tokenManager := some manager }

/-- A step of a caller. A login that failed has changed nothing. -/
def loginStep (s : RobotSession ι) (e : SessionEvent ι) : Option (RobotSession ι) :=
  match e with
  | .authenticate i credentials =>
      if s.logins i = .idle then some (s.setLogin i (.authenticating credentials)) else none
  | .loginFailed i status =>
      match s.logins i with
      | .authenticating _ => if status.ok then none else some (s.setLogin i .idle)
      | _ => none
  | .loginAnswered i token =>
      match s.logins i with
      | .authenticating credentials =>
          some (s.setLogin i (.storing token credentials.username))
      | _ => none
  | .storeLogin i =>
      match s.logins i with
      | .storing token username => some ((s.setUserToken token).setLogin i (.caching username))
      | _ => none
  | .cacheLogin i =>
      match s.logins i with
      | .caching username => some ((s.updateTokenCache username).setLogin i .idle)
      | _ => none
  | _ => none

/-- A step of the refresh thread. -/
def refreshStep (s : RobotSession ι) (manager : TokenManager) (e : SessionEvent ι) :
    Option (RobotSession ι) :=
  match manager.loop, e with
  | .waiting, .readToken =>
      some (s.setManager { manager with loop := .authenticating s.userToken })
  | .authenticating _, .refreshFailed status =>
      if status.ok then none else some (s.setManager (manager.failed status))
  | .authenticating _, .refreshAnswered token =>
      some (s.setManager { manager with loop := .storing token })
  | .storing token, .storeRefresh =>
      some ((s.setUserToken token).setManager { manager with loop := .caching })
  | .caching, .cacheRefresh =>
      some ((s.updateTokenCache "").setManager manager.resumeNormalOperation)
  | .calling _, .callbackAnswered answer => some (s.setManager (manager.called answer))
  | .leaving, .leaveLoop => some (s.setManager manager.leave)
  | _, _ => none

/-- One step of one thread, while the robot lives. The destructor joins the refresh
thread. -/
def step (s : RobotSession ι) (e : SessionEvent ι) : Option (RobotSession ι) :=
  if s.destroyed then none
  else
    match e with
    | .setTokenRefreshErrorCallback callback =>
        some { s with
          errorCallback := callback
          tokenManager := s.tokenManager.map fun manager => { manager with callback } }
    | .destroy => some { s with tokenManager := none, destroyed := true }
    | .authenticate .. => s.loginStep e
    | .loginFailed .. => s.loginStep e
    | .loginAnswered .. => s.loginStep e
    | .storeLogin _ => s.loginStep e
    | .cacheLogin _ => s.loginStep e
    | _ => s.tokenManager.bind (s.refreshStep · e)

/-- The steps of the session, one for each event. -/
inductive Takes (s : RobotSession ι) : SessionEvent ι → RobotSession ι → Prop
  | authenticate {i credentials} (place : s.logins i = .idle) :
      Takes s (.authenticate i credentials) (s.setLogin i (.authenticating credentials))
  | loginFailed {i status credentials} (place : s.logins i = .authenticating credentials) :
      Takes s (.loginFailed i status) (s.setLogin i .idle)
  | loginAnswered {i token credentials} (place : s.logins i = .authenticating credentials) :
      Takes s (.loginAnswered i token) (s.setLogin i (.storing token credentials.username))
  | storeLogin {i token username} (place : s.logins i = .storing token username) :
      Takes s (.storeLogin i) ((s.setUserToken token).setLogin i (.caching username))
  | cacheLogin {i username} (place : s.logins i = .caching username) :
      Takes s (.cacheLogin i) ((s.updateTokenCache username).setLogin i .idle)
  | readToken {manager} (made : s.tokenManager = some manager)
      (place : manager.loop = .waiting) :
      Takes s .readToken (s.setManager { manager with loop := .authenticating s.userToken })
  | refreshFailed {manager token status} (made : s.tokenManager = some manager)
      (place : manager.loop = .authenticating token) :
      Takes s (.refreshFailed status) (s.setManager (manager.failed status))
  | refreshAnswered {manager token answer} (made : s.tokenManager = some manager)
      (place : manager.loop = .authenticating token) :
      Takes s (.refreshAnswered answer) (s.setManager { manager with loop := .storing answer })
  | storeRefresh {manager token} (made : s.tokenManager = some manager)
      (place : manager.loop = .storing token) :
      Takes s .storeRefresh
        ((s.setUserToken token).setManager { manager with loop := .caching })
  | cacheRefresh {manager} (made : s.tokenManager = some manager)
      (place : manager.loop = .caching) :
      Takes s .cacheRefresh
        ((s.updateTokenCache "").setManager manager.resumeNormalOperation)
  | callbackAnswered {manager status answer} (made : s.tokenManager = some manager)
      (place : manager.loop = .calling status) :
      Takes s (.callbackAnswered answer) (s.setManager (manager.called answer))
  | leaveLoop {manager} (made : s.tokenManager = some manager)
      (place : manager.loop = .leaving) :
      Takes s .leaveLoop (s.setManager manager.leave)
  | setCallback {callback} :
      Takes s (.setTokenRefreshErrorCallback callback)
        { s with
          errorCallback := callback
          tokenManager := s.tokenManager.map fun manager => { manager with callback } }
  | destroy : Takes s .destroy { s with tokenManager := none, destroyed := true }

variable {s t : RobotSession ι} {e : SessionEvent ι}

theorem loginStep_cases (hstep : s.loginStep e = some t) : Takes s e t := by
  cases e with
  | authenticate i credentials =>
      simp only [loginStep] at hstep
      split_ifs at hstep with place
      exact Option.some.inj hstep ▸ .authenticate place
  | loginFailed i status =>
      simp only [loginStep] at hstep
      split at hstep
      case h_1 place =>
        split_ifs at hstep
        exact Option.some.inj hstep ▸ .loginFailed place
      case h_2 => cases hstep
  | loginAnswered i token =>
      simp only [loginStep] at hstep
      split at hstep
      case h_1 place => exact Option.some.inj hstep ▸ .loginAnswered place
      case h_2 => cases hstep
  | storeLogin i =>
      simp only [loginStep] at hstep
      split at hstep
      case h_1 place => exact Option.some.inj hstep ▸ .storeLogin place
      case h_2 => cases hstep
  | cacheLogin i =>
      simp only [loginStep] at hstep
      split at hstep
      case h_1 place => exact Option.some.inj hstep ▸ .cacheLogin place
      case h_2 => cases hstep
  | _ => cases hstep

theorem refreshStep_cases {manager : TokenManager} (made : s.tokenManager = some manager)
    (hstep : s.refreshStep manager e = some t) : Takes s e t := by
  unfold refreshStep at hstep
  split at hstep
  case h_1 place => exact Option.some.inj hstep ▸ .readToken made place
  case h_2 token status place =>
    split_ifs at hstep
    exact Option.some.inj hstep ▸ .refreshFailed made place
  case h_3 token answer place => exact Option.some.inj hstep ▸ .refreshAnswered made place
  case h_4 token place => exact Option.some.inj hstep ▸ .storeRefresh made place
  case h_5 place => exact Option.some.inj hstep ▸ .cacheRefresh made place
  case h_6 status answer place => exact Option.some.inj hstep ▸ .callbackAnswered made place
  case h_7 place => exact Option.some.inj hstep ▸ .leaveLoop made place
  case h_8 => cases hstep

theorem step_cases (hstep : StepOf step s e t) : s.destroyed = false ∧ Takes s e t := by
  unfold StepOf step at hstep
  split_ifs at hstep with destroyed
  refine ⟨Bool.eq_false_iff.mpr destroyed, ?_⟩
  split at hstep
  case h_1 => exact Option.some.inj hstep ▸ .setCallback
  case h_2 => exact Option.some.inj hstep ▸ .destroy
  case h_8 =>
    obtain ⟨manager, made, refreshed⟩ := Option.bind_eq_some_iff.mp hstep
    exact refreshStep_cases made refreshed
  all_goals exact loginStep_cases hstep

end Steps

end RobotSession

end SpotSdk.Client
