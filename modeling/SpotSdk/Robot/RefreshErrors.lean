import SpotSdk.Common.ResponseProcessing
import SpotSdk.KeepAlive.RetryBackOff
import SpotSdk.Robot.ServiceClients

/-!
# Which errors of a refresh the application is asked about

The refresh thread asks the error callback when the user token is not valid. It compares
the value of the error code alone, and codes of other categories have the same value.
-/

namespace SpotSdk.Client

open Foundations Common

def getAuthTokenStatusCategory : ErrorCategory := ⟨"GetAuthTokenResponse_Status", [1]⟩

/-- `GetAuthTokenResponse::STATUS_INVALID_TOKEN`. -/
def invalidToken : ErrorCode := ⟨getAuthTokenStatusCategory, statusInvalidToken⟩

structure GetAuthTokenResponse where
  header : ResponseHeader := {}
  status : Int := 0
  token : String := ""
  deriving DecidableEq, Repr, Inhabited

/-- The result of `AuthClient::GetAuthToken`. -/
def getAuthToken (chain : List (ResponseProcessor GetAuthTokenResponse))
    (outcome : RpcOutcome GetAuthTokenResponse) : Result GetAuthTokenResponse :=
  outcome.result chain GetAuthTokenResponse.header fun response =>
    ⟨getAuthTokenStatusCategory, response.status⟩

/-- The status of `Robot::AuthenticateWithToken`, from what making the client and the RPC
give. -/
def authenticateWithToken (authServiceClient : Status)
    (chain : List (ResponseProcessor GetAuthTokenResponse))
    (outcome : RpcOutcome GetAuthTokenResponse) : Status :=
  if !authServiceClient.ok then authServiceClient
  else
    let result := getAuthToken chain outcome
    if !result.ok then result.status
    else ⟨SDKErrorCode.success.code, ""⟩

/-- The thread asks a registered callback exactly if the user token is not valid, and backs
off without asking after every other error. -/
structure AsksExactly (manager : TokenManager) (status : Status) (callback : Bool)
    (next : TokenManager) : Prop where
  asks : next.loop = .calling status ↔ status.code = invalidToken ∧ callback = true
  backsOff : status.code ≠ invalidToken →
    next = { manager with callback }.react .retryWithExponentialBackOff

/-- A code of another category has the value of the one for a token that is not valid. -/
def Collides (status : Status) : Prop :=
  status.code.value = statusInvalidToken ∧ status.code.category ≠ getAuthTokenStatusCategory

/-- Every question is about a token that is not valid. -/
def AsksOnlyAboutTokens (es : List UpdateEvent) : Prop :=
  ∀ pre answer post, es = pre ++ .callbackAnswered answer :: post →
    ∃ before status, pre = before ++ [.authenticationFailed status true] ∧
      status.code = invalidToken

section Asking

variable {manager next : TokenManager} {status : Status} {callback : Bool} {e : UpdateEvent}
  {es : List UpdateEvent} {initial regular : Int}

theorem invalidToken_iff :
    status.code = invalidToken ↔ status.code.value = statusInvalidToken ∧ ¬Collides status := by
  obtain ⟨⟨category, value⟩, message⟩ := status
  simp only [invalidToken, Collides, ErrorCode.mk.injEq, not_and, not_not]
  constructor
  · rintro ⟨rfl, rfl⟩
    exact ⟨rfl, fun _ => rfl⟩
  · rintro ⟨same, category⟩
    exact ⟨category same, same⟩

/-- The thread goes on by one of two steps after a failure. -/
theorem update_failed (step : manager.update (.authenticationFailed status callback) = some next) :
    (status.code.value = statusInvalidToken ∧ callback = true) ∧
        next = { manager with callback := callback, loop := .calling status } ∨
      ¬(status.code.value = statusInvalidToken ∧ callback = true) ∧
        next = { manager with callback }.react .retryWithExponentialBackOff := by
  cases update_cases step with
  | called called => exact .inl ⟨called, rfl⟩
  | notCalled notCalled => exact .inr ⟨notCalled, rfl⟩

/-- After a failure a callback is asked as it should be, unless the code collides. -/
theorem asksExactly_step_iff
    (step : manager.update (.authenticationFailed status callback) = some next) :
    AsksExactly manager status callback next ↔ ¬(callback = true ∧ Collides status) := by
  rcases update_failed step with ⟨⟨value, set⟩, rfl⟩ | ⟨other, rfl⟩
  · constructor
    · rintro exactly ⟨_, collides⟩
      exact (invalidToken_iff.mp (exactly.asks.mp rfl).1).2 collides
    · intro distinct
      have invalid := invalidToken_iff.mpr ⟨value, fun collides => distinct ⟨set, collides⟩⟩
      exact ⟨⟨fun _ => ⟨invalid, set⟩, fun _ => rfl⟩, fun valid => absurd invalid valid⟩
  · constructor
    · rintro _ ⟨set, collides⟩
      exact other ⟨collides.1, set⟩
    · intro _
      refine ⟨?_, fun _ => rfl⟩
      constructor
      · rintro ⟨⟩
      · rintro ⟨invalid, set⟩
        exact absurd ⟨(invalidToken_iff.mp invalid).1, set⟩ other

/-- An answer is given to a question. -/
theorem calling_of_answered {answer : Option ErrorCallbackResult}
    (step : manager.update (.callbackAnswered answer) = some next) :
    ∃ status, manager.loop = .calling status := by
  cases place : manager.loop with
  | calling status => exact ⟨status, rfl⟩
  | _ => simp [TokenManager.update, place] at step

/-- A question follows the failure that it is about. -/
def AskedLast (es : List UpdateEvent) (manager : TokenManager) : Prop :=
  ∀ status, manager.loop = .calling status →
    ∃ before, es = before ++ [.authenticationFailed status true] ∧
      status.code.value = statusInvalidToken

theorem AskedLast.step (step : manager.update e = some next) : AskedLast (es ++ [e]) next := by
  intro status asked
  cases update_cases step with
  | called called =>
      obtain ⟨value, rfl⟩ := called
      obtain rfl := RefreshLoop.calling.inj asked
      exact ⟨es, rfl, value⟩
  | callbackAnswered =>
      rename_i answer
      cases answer with
      | none => cases asked
      | some answer => cases answer <;> cases asked
  | _ => cases asked

/-- If no code collides, the application is asked about invalid tokens alone. -/
theorem asksOnlyAboutTokens_of_run
    (run : Run (StepOf TokenManager.update) (tokenManager initial regular) es manager)
    (distinct : ∀ status, .authenticationFailed status true ∈ es → ¬Collides status) :
    AsksOnlyAboutTokens es := by
  rintro pre answer post rfl
  obtain ⟨asking, before, after⟩ := run.split
  have asked : AskedLast pre asking := by
    have start : AskedLast [] (tokenManager initial regular) := by
      rintro status ⟨⟩
    have recorded := before.recorded start fun _ step => AskedLast.step step
    rwa [List.nil_append] at recorded
  cases after with
  | cons step tail =>
      obtain ⟨status, calling⟩ := calling_of_answered step
      obtain ⟨earlier, rfl, value⟩ := asked status calling
      refine ⟨earlier, status, rfl, invalidToken_iff.mpr ⟨value, ?_⟩⟩
      apply distinct
      simp

/-- The callback is asked as it should be about every status of `AuthenticateWithToken` but
those that collide, and in a run without these about invalid tokens alone. -/
theorem refreshErrors_iff {manager next : TokenManager} (authServiceClient : Status)
    (chain : List (ResponseProcessor GetAuthTokenResponse))
    (outcome : RpcOutcome GetAuthTokenResponse) (callback : Bool)
    (step : manager.update (.authenticationFailed
      (authenticateWithToken authServiceClient chain outcome) callback) = some next) :
    (AsksExactly manager (authenticateWithToken authServiceClient chain outcome) callback next ↔
      ¬(callback = true ∧ Collides (authenticateWithToken authServiceClient chain outcome))) ∧
    ∀ (initial regular : Int) (es : List UpdateEvent) (manager : TokenManager),
      Run (StepOf TokenManager.update) (tokenManager initial regular) es manager →
      (∀ status, .authenticationFailed status true ∈ es → ¬Collides status) →
      AsksOnlyAboutTokens es := by
  constructor
  · exact asksExactly_step_iff step
  · intro initial regular es manager run distinct
    exact asksOnlyAboutTokens_of_run run distinct

end Asking

/-- An RPC that is not answered in time does not ask the application. -/
theorem deadlineExceeded_asksExactly :
    let status := authenticateWithToken clientCreated [] (.failed ⟨.deadlineExceeded, "", ""⟩ rfl)
    let manager := { tokenManager 1 10 with loop := .authenticating "" }
    AsksExactly manager status true
      ({ manager with callback := true }.react .retryWithExponentialBackOff) := by
  intro status manager
  apply (refreshErrors_iff clientCreated [] (.failed ⟨.deadlineExceeded, "", ""⟩ rfl) true
    rfl).1.mpr
  rintro ⟨_, value, _⟩
  exact absurd value (by decide)

/-- The RPC of a refresh fails in its TLS handshake. -/
def handshakeFailed : Status :=
  authenticateWithToken clientCreated [] (.failed ⟨.internal, "Handshake failed", ""⟩ rfl)

/-- A refresh whose handshake fails, and an application that gives up. -/
def handshakeUpdates : List UpdateEvent :=
  [.waitForInterval 10 true "", .authenticationFailed handshakeFailed true,
    .callbackAnswered (some .abort)]

/-- The application is asked about the transport failure, and its answer ends the refresh. -/
theorem handshakeFailed_not_asksExactly :
    handshakeFailed.code = RPCErrorCode.invalidClientCertificateError.code ∧
      ¬AsksExactly { tokenManager 1 10 with loop := .authenticating "" } handshakeFailed true
        { tokenManager 1 10 with callback := true, loop := .calling handshakeFailed } ∧
      (∃ manager, Run (StepOf TokenManager.update) (tokenManager 1 10) handshakeUpdates manager ∧
        manager.loop = .leaving) ∧
      ¬AsksOnlyAboutTokens handshakeUpdates := by
  have code : handshakeFailed.code = RPCErrorCode.invalidClientCertificateError.code := by decide
  have valid : handshakeFailed.code ≠ invalidToken := by
    rw [code]
    decide
  refine ⟨code, ?_, ⟨_, .cons rfl (.cons rfl (.cons rfl (.nil _))), rfl⟩, ?_⟩
  · intro exactly
    exact valid (exactly.asks.mp rfl).1
  · intro only
    obtain ⟨before, status, split, invalid⟩ := only
      [.waitForInterval 10 true "", .authenticationFailed handshakeFailed true] (some .abort) [] rfl
    have last : .authenticationFailed handshakeFailed true =
        UpdateEvent.authenticationFailed status true := by
      have same := congrArg List.getLast? split
      rw [List.getLast?_append] at same
      exact Option.some.inj same
    obtain ⟨rfl, _⟩ := UpdateEvent.authenticationFailed.inj last
    exact valid invalid

end SpotSdk.Client
