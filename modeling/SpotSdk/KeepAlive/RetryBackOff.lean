import Mathlib.Algebra.Order.Ring.Int
import SpotSdk.Foundations.BackOff
import SpotSdk.KeepAlive.DirectoryRegistration
import SpotSdk.KeepAlive.PayloadRegistration

/-!
# The back-off of the keep-alive loops

The loops that register a service, register a payload and refresh a token all double the
interval of their retries, up to their regular interval. They differ in which events start
it again: an answer to resume does so for payloads and tokens, but not for services.
-/

namespace SpotSdk.Client

open SpotSdk.Common SpotSdk.Foundations

/-- Retries double from the initial interval up to the regular one. -/
def doubling (initial regular : Int) : RetryPolicy Int where
  grow interval := interval * 2
  initial := initial
  cap := regular

theorem doubling_grows {initial regular : Int} (positive : 0 < initial) (x : Int)
    (h : (doubling initial regular).initial ≤ x) : x ≤ (doubling initial regular).grow x := by
  change initial ≤ x at h
  change x ≤ x * 2
  omega

/-! ## Services -/

namespace DirectoryEvent

/-- The answer that asks for a back-off. -/
def BacksOff : DirectoryEvent → Prop
  | .errorCallback _ answer => answer = some .retryWithExponentialBackOff
  | _ => False

/-- The service was registered, or it existed and was updated. -/
def Succeeds : DirectoryEvent → Prop
  | .registered | .updated _ => True
  | _ => False

/-- The service existed and was updated. -/
def Updates : DirectoryEvent → Prop
  | .updated _ => True
  | _ => False

def wait : DirectoryEvent → Option Int
  | .waitForInterval interval _ => some interval
  | _ => none

def pace : DirectoryEvent → Pace
  | .errorCallback _ (some .retryWithExponentialBackOff) => .backOff
  | .updated _ => .reset
  | _ => .keep

end DirectoryEvent

theorem directory_paces (keepAlive : DirectoryRegistrationKeepAlive) :
    (doubling keepAlive.registrationInitialRetryInterval keepAlive.registrationInterval).Paces
      (StepOf keepAlive.step) (·.retryInterval) (·.waitInterval) DirectoryEvent.pace
      DirectoryEvent.wait where
  follows {s e t} step := by
    cases DirectoryRegistrationKeepAlive.step_cases step with
    | errorCallback place =>
        rename_i answer
        cases answer with
        | none => rfl
        | some answer =>
            cases answer
            case retryWithExponentialBackOff => exact ⟨rfl, rfl⟩
            all_goals rfl
    | waitForInterval place =>
        rename_i again
        cases again <;> rfl
    | _ => rfl
  waits {s e t w} step waiting := by
    cases DirectoryRegistrationKeepAlive.step_cases step with
    | waitForInterval place => exact ⟨(Option.some.inj waiting).symm, rfl⟩
    | _ => simp [DirectoryEvent.wait] at waiting

/-! ## Payloads -/

namespace PayloadEvent

/-- The answer that asks for a back-off. -/
def BacksOff : PayloadEvent → Prop
  | .errorCallback _ answer => answer = some .retryWithExponentialBackOff
  | _ => False

/-- The payload was registered, now or before. -/
def Succeeds : PayloadEvent → Prop
  | .registered _ => True
  | _ => False

/-- A failure that is answered by going on as usual, as it is without an answer. -/
def Resumes : PayloadEvent → Prop
  | .errorCallback _ answer =>
      answer = some .resumeNormalOperation ∨ answer = some .defaultAction ∨ answer = none
  | .noErrorCallback => True
  | _ => False

def wait : PayloadEvent → Option Int
  | .waitForInterval interval _ => some interval
  | _ => none

def pace : PayloadEvent → Pace
  | .registered _ => .reset
  | .errorCallback _ none => .reset
  | .errorCallback _ (some .resumeNormalOperation) => .reset
  | .errorCallback _ (some .defaultAction) => .reset
  | .errorCallback _ (some .retryWithExponentialBackOff) => .backOff
  | .noErrorCallback => .reset
  | _ => .keep

end PayloadEvent

theorem payload_paces (keepAlive : PayloadRegistrationKeepAlive) :
    (doubling keepAlive.registrationInitialRetryInterval keepAlive.rpcInterval).Paces
      (StepOf keepAlive.step) (·.retryInterval) (·.waitTime) PayloadEvent.pace
      PayloadEvent.wait where
  follows {s e t} step := by
    cases PayloadRegistrationKeepAlive.step_cases step with
    | errorCallback =>
        rename_i answer
        cases answer with
        | none => rfl
        | some answer =>
            cases answer
            case retryWithExponentialBackOff => exact ⟨rfl, rfl⟩
            all_goals rfl
    | waitForInterval =>
        rename_i again
        cases again <;> rfl
    | _ => rfl
  waits {s e t w} step waiting := by
    cases PayloadRegistrationKeepAlive.step_cases step with
    | waitForInterval => exact ⟨(Option.some.inj waiting).symm, rfl⟩
    | _ => simp [PayloadEvent.wait] at waiting

/-! ## Tokens -/

/-- What the loop of `TokenManager::Update` sees: the end of a wait with the token it reads
then, the result of the authentication with the callback that is set then, and its answer. -/
inductive UpdateEvent
  | waitForInterval (interval : Int) (again : Bool) (userToken : String)
  | authenticated
  | authenticationFailed (status : Status) (callback : Bool)
  | callbackAnswered (answer : Option ErrorCallbackResult)

/-- One event of the loop, at the point where it can happen. -/
def TokenManager.update (manager : TokenManager) (e : UpdateEvent) : Option TokenManager :=
  match manager.loop, e with
  | .waiting, .waitForInterval interval again userToken =>
      if interval = manager.waitInterval then
        if again then some { manager with loop := .authenticating userToken }
        else some manager.leave
      else none
  | .authenticating _, .authenticated => some manager.resumeNormalOperation
  | .authenticating _, .authenticationFailed status callback =>
      if status.ok then none else some ({ manager with callback }.failed status)
  | .calling _, .callbackAnswered answer => some (manager.called answer)
  | _, _ => none

/-- A manager as its constructor leaves it. -/
def tokenManager (initial regular : Int) : TokenManager where
  refreshInterval := regular
  initialRetryInterval := initial
  callback := false
  retryInterval := initial
  waitInterval := regular

namespace UpdateEvent

/-- A back-off that is answered, or taken without a call. -/
def BacksOff : UpdateEvent → Prop
  | .authenticationFailed status callback =>
      ¬(status.code.value = statusInvalidToken ∧ callback = true)
  | .callbackAnswered answer =>
      answer = some .retryWithExponentialBackOff ∨ answer = some .defaultAction ∨ answer = none
  | _ => False

/-- The token was refreshed. -/
def Succeeds : UpdateEvent → Prop
  | .authenticated => True
  | _ => False

/-- A failure that is answered by going on as usual. -/
def Resumes : UpdateEvent → Prop
  | .callbackAnswered answer => answer = some .resumeNormalOperation
  | _ => False

def wait : UpdateEvent → Option Int
  | .waitForInterval interval _ _ => some interval
  | _ => none

def pace : UpdateEvent → Pace
  | .authenticated => .reset
  | .authenticationFailed status callback =>
      if status.code.value = statusInvalidToken ∧ callback then .keep else .backOff
  | .callbackAnswered none => .backOff
  | .callbackAnswered (some .defaultAction) => .backOff
  | .callbackAnswered (some .retryWithExponentialBackOff) => .backOff
  | .callbackAnswered (some .resumeNormalOperation) => .reset
  | _ => .keep

end UpdateEvent

section Updating

variable {manager next : TokenManager} {e : UpdateEvent} {initial regular : Int}

/-- The loop keeps its own two intervals. -/
def FixedIntervals (initial regular : Int) (manager : TokenManager) : Prop :=
  manager.initialRetryInterval = initial ∧ manager.refreshInterval = regular

/-- The steps of a manager with these intervals. -/
def UpdatesWith (initial regular : Int) (manager : TokenManager) (e : UpdateEvent)
    (next : TokenManager) : Prop :=
  manager.update e = some next ∧ FixedIntervals initial regular manager

/-- The steps of the loop, one for each event. -/
inductive TakesUpdate (manager : TokenManager) : UpdateEvent → TokenManager → Prop
  | again {userToken} : TakesUpdate manager
      (.waitForInterval manager.waitInterval true userToken)
      { manager with loop := .authenticating userToken }
  | ended {userToken} : TakesUpdate manager
      (.waitForInterval manager.waitInterval false userToken) manager.leave
  | authenticated : TakesUpdate manager .authenticated manager.resumeNormalOperation
  | called {status callback} (called : status.code.value = statusInvalidToken ∧ callback = true) :
      TakesUpdate manager (.authenticationFailed status callback)
        { manager with callback := callback, loop := .calling status }
  | notCalled {status callback}
      (notCalled : ¬(status.code.value = statusInvalidToken ∧ callback = true)) :
      TakesUpdate manager (.authenticationFailed status callback)
        ({ manager with callback := callback }.react .retryWithExponentialBackOff)
  | callbackAnswered {answer} : TakesUpdate manager (.callbackAnswered answer)
      (manager.called answer)

theorem update_cases (step : manager.update e = some next) : TakesUpdate manager e next := by
  unfold TokenManager.update at step
  split at step
  case h_1 interval again userToken place =>
    split_ifs at step with same going
    · subst same
      subst going
      exact Option.some.inj step ▸ .again
    · subst same
      rw [Bool.not_eq_true] at going
      subst going
      exact Option.some.inj step ▸ .ended
  case h_2 => exact Option.some.inj step ▸ .authenticated
  case h_3 token status callback place =>
    split_ifs at step
    obtain rfl := Option.some.inj step
    rw [TokenManager.failed]
    split_ifs with called
    · exact .called called
    · exact .notCalled called
  case h_4 status answer place => exact Option.some.inj step ▸ .callbackAnswered
  case h_5 => cases step

theorem FixedIntervals.update (h : FixedIntervals initial regular manager)
    (step : manager.update e = some next) : FixedIntervals initial regular next := by
  cases update_cases step with
  | callbackAnswered =>
      rename_i answer
      cases answer with
      | none => exact h
      | some answer => cases answer <;> exact h
  | _ => exact h

theorem update_paces : (doubling initial regular).Paces (UpdatesWith initial regular)
    (·.retryInterval) (·.waitInterval) UpdateEvent.pace UpdateEvent.wait where
  follows {s e t} step := by
    obtain ⟨step, rfl, rfl⟩ := step
    cases update_cases step with
    | called called =>
        rw [UpdateEvent.pace, if_pos called]
        rfl
    | notCalled notCalled =>
        rw [UpdateEvent.pace, if_neg notCalled]
        exact ⟨rfl, rfl⟩
    | callbackAnswered =>
        rename_i answer
        cases answer with
        | none => exact ⟨rfl, rfl⟩
        | some answer =>
            cases answer
            case resumeNormalOperation => rfl
            case retryImmediately => rfl
            case abort => rfl
            all_goals exact ⟨rfl, rfl⟩
    | _ => rfl
  waits {s e t w} step waiting := by
    cases update_cases step.1 with
    | again | ended => exact ⟨(Option.some.inj waiting).symm, rfl⟩
    | _ => simp [UpdateEvent.wait] at waiting

end Updating

/-! ## The law of the three loops -/

theorem DirectoryEvent.backsOff_iff (e : DirectoryEvent) : e.BacksOff ↔ e.pace = .backOff := by
  cases e with
  | errorCallback received answer =>
      cases answer with
      | none => simp [BacksOff, pace]
      | some answer => cases answer <;> simp [BacksOff, pace]
  | _ => simp [BacksOff, pace]

theorem PayloadEvent.backsOff_iff (e : PayloadEvent) : e.BacksOff ↔ e.pace = .backOff := by
  cases e with
  | errorCallback received answer =>
      cases answer with
      | none => simp [BacksOff, pace]
      | some answer => cases answer <;> simp [BacksOff, pace]
  | _ => simp [BacksOff, pace]

theorem UpdateEvent.backsOff_iff (e : UpdateEvent) : e.BacksOff ↔ e.pace = .backOff := by
  cases e with
  | authenticationFailed status callback =>
      rw [BacksOff, pace]
      split <;> simp_all
  | callbackAnswered answer =>
      cases answer with
      | none => simp [BacksOff, pace]
      | some answer => cases answer <;> simp [BacksOff, pace]
  | _ => simp [BacksOff, pace]

/-- An event of a service that starts the interval again is a success. -/
theorem DirectoryEvent.succeeds_of_reset {e : DirectoryEvent} (h : e.pace = .reset) :
    e.Succeeds := by
  unfold pace at h
  split at h
  case h_2 => trivial
  all_goals cases h

/-- An event of a payload that starts the interval again is a success or an answer to
resume. -/
theorem PayloadEvent.breaks_of_reset {e : PayloadEvent} (h : e.pace = .reset) :
    e.Succeeds ∨ e.Resumes := by
  unfold pace at h
  split at h
  case h_1 => exact .inl trivial
  case h_2 => exact .inr (.inr (.inr rfl))
  case h_3 => exact .inr (.inl rfl)
  case h_4 => exact .inr (.inr (.inl rfl))
  case h_6 => exact .inr trivial
  all_goals cases h

/-- An event of a token that starts the interval again is a success or an answer to
resume. -/
theorem UpdateEvent.breaks_of_reset {e : UpdateEvent} (h : e.pace = .reset) :
    e.Succeeds ∨ e.Resumes := by
  unfold pace at h
  split at h
  case h_1 => exact .inl trivial
  case h_2 => split at h <;> cases h
  case h_6 => exact .inr rfl
  all_goals cases h

/-- Each loop backs off by the law. For services only a success breaks the growth of the
interval; for payloads and tokens an answer to resume does so too. -/
theorem keepAlives_backOff {initial regular : Int} (positive : 0 < initial)
    (capped : initial ≤ regular) :
    (∀ (keepAlive : DirectoryRegistrationKeepAlive) (es : List DirectoryEvent)
        (s : DirectoryReregistration),
      keepAlive.registrationInitialRetryInterval = initial →
      keepAlive.registrationInterval = regular →
      Run (StepOf keepAlive.step) keepAlive.constructed es s →
      (doubling initial regular).Law DirectoryEvent.BacksOff DirectoryEvent.Succeeds
        DirectoryEvent.Updates DirectoryEvent.wait es) ∧
    (∀ (keepAlive : PayloadRegistrationKeepAlive) (es : List PayloadEvent)
        (s : PayloadReregistration),
      keepAlive.registrationInitialRetryInterval = initial →
      keepAlive.rpcInterval = regular →
      Run (StepOf keepAlive.step) keepAlive.started es s →
      (doubling initial regular).Law PayloadEvent.BacksOff
        (fun e => e.Succeeds ∨ e.Resumes) PayloadEvent.Succeeds PayloadEvent.wait es) ∧
    ∀ (es : List UpdateEvent) (manager : TokenManager),
      Run (StepOf TokenManager.update) (tokenManager initial regular) es manager →
      (doubling initial regular).Law UpdateEvent.BacksOff
        (fun e => e.Succeeds ∨ e.Resumes) UpdateEvent.Succeeds UpdateEvent.wait es := by
  refine ⟨?_, ?_, ?_⟩
  · rintro keepAlive es s rfl rfl run
    apply (directory_paces keepAlive).law capped (doubling_grows positive)
      DirectoryEvent.backsOff_iff _ _ run rfl
    · exact fun e => DirectoryEvent.succeeds_of_reset
    · intro e updates
      cases e with
      | updated cleared => rfl
      | _ => exact updates.elim
  · rintro keepAlive es s rfl rfl run
    apply (payload_paces keepAlive).law capped (doubling_grows positive)
      PayloadEvent.backsOff_iff _ _ run rfl
    · exact fun e => PayloadEvent.breaks_of_reset
    · intro e succeeds
      cases e with
      | registered status => rfl
      | _ => exact succeeds.elim
  · intro es manager run
    have fixed : FixedIntervals initial regular (tokenManager initial regular) := ⟨rfl, rfl⟩
    have updates : Run (UpdatesWith initial regular) (tokenManager initial regular) es manager :=
      run.strengthen fixed (fun h step => h.update step) fun h step => ⟨step, h⟩
    apply update_paces.law capped (doubling_grows positive)
      UpdateEvent.backsOff_iff _ _ updates rfl
    · exact fun e => UpdateEvent.breaks_of_reset
    · intro e succeeds
      cases e with
      | authenticated => rfl
      | _ => exact succeeds.elim

/-- The user token was not valid. -/
def invalidTokenStatus : Status := ⟨⟨⟨"GetAuthTokenResponse_Status", [1]⟩, 3⟩, ""⟩

/-- Two back-offs of a token with an answer to resume between them. -/
def resumedUpdates : List UpdateEvent :=
  [.waitForInterval 10 true "", .authenticationFailed invalidTokenStatus false,
    .waitForInterval 1 true "", .authenticationFailed invalidTokenStatus true,
    .callbackAnswered (some .resumeNormalOperation), .waitForInterval 10 true "",
    .authenticationFailed invalidTokenStatus false, .waitForInterval 1 true ""]

/-- Two back-offs of a payload with an answer to resume between them. -/
def resumedRegistrations : List PayloadEvent :=
  [.registerFailed invalidTokenStatus,
    .errorCallback invalidTokenStatus (some .retryWithExponentialBackOff),
    .waitForInterval 1 true, .registerFailed invalidTokenStatus,
    .errorCallback invalidTokenStatus (some .resumeNormalOperation), .waitForInterval 10 true,
    .registerFailed invalidTokenStatus,
    .errorCallback invalidTokenStatus (some .retryWithExponentialBackOff),
    .waitForInterval 1 true]

theorem resumedUpdates_run :
    ∃ manager, Run (StepOf TokenManager.update) (tokenManager 1 10) resumedUpdates manager :=
  ⟨_, .cons rfl (.cons rfl (.cons rfl (.cons rfl (.cons rfl (.cons rfl (.cons rfl
    (.cons rfl (.nil _))))))))⟩

theorem keepAlives_backOff_resumed :
    (doubling 1 10).Law UpdateEvent.BacksOff (fun e => e.Succeeds ∨ e.Resumes)
      UpdateEvent.Succeeds UpdateEvent.wait resumedUpdates := by
  obtain ⟨manager, run⟩ := resumedUpdates_run
  exact (keepAlives_backOff (by decide) (by decide)).2.2 _ manager run

/-- Without a success between them, the second of two back-off waits need not double. -/
theorem resumed_not_doubled :
    (∃ manager, Run (StepOf TokenManager.update) (tokenManager 1 10) resumedUpdates manager ∧
      ¬(doubling 1 10).Law UpdateEvent.BacksOff UpdateEvent.Succeeds UpdateEvent.Succeeds
        UpdateEvent.wait resumedUpdates) ∧
    ∃ s, Run (StepOf (PayloadRegistrationKeepAlive.step ⟨10, 1, 1, true⟩))
        (PayloadRegistrationKeepAlive.started ⟨10, 1, 1, true⟩) resumedRegistrations s ∧
      ¬(doubling 1 10).Law PayloadEvent.BacksOff PayloadEvent.Succeeds PayloadEvent.Succeeds
        PayloadEvent.wait resumedRegistrations := by
  constructor
  · obtain ⟨manager, run⟩ := resumedUpdates_run
    refine ⟨manager, run, ?_⟩
    intro law
    have split : resumedUpdates = resumedUpdates.take 1 ++
        .authenticationFailed invalidTokenStatus false :: .waitForInterval 1 true "" ::
          ((resumedUpdates.drop 3).take 3 ++
            .authenticationFailed invalidTokenStatus false ::
              .waitForInterval 1 true "" :: []) := rfl
    have doubled := law.grows split (by simp [UpdateEvent.BacksOff]) rfl
      (by simp [resumedUpdates, UpdateEvent.BacksOff, UpdateEvent.Succeeds, invalidTokenStatus,
        statusInvalidToken]) (by simp [UpdateEvent.BacksOff]) rfl
    exact absurd doubled (by decide)
  · refine ⟨_, .cons rfl (.cons rfl (.cons rfl (.cons rfl (.cons rfl (.cons rfl (.cons rfl
      (.cons rfl (.cons rfl (.nil _))))))))), ?_⟩
    intro law
    have split : resumedRegistrations = resumedRegistrations.take 1 ++
        .errorCallback invalidTokenStatus (some .retryWithExponentialBackOff) ::
          .waitForInterval 1 true :: ((resumedRegistrations.drop 3).take 4 ++
            .errorCallback invalidTokenStatus (some .retryWithExponentialBackOff) ::
              .waitForInterval 1 true :: []) := rfl
    have doubled := law.grows split rfl rfl
      (by simp [resumedRegistrations, PayloadEvent.BacksOff, PayloadEvent.Succeeds]) rfl rfl
    exact absurd doubled (by decide)

end SpotSdk.Client
