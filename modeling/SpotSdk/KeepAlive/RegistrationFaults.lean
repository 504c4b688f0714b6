import SpotSdk.KeepAlive.DirectoryRegistration

/-!
# The faults and the errors of a registration

The history of a keep-alive says which RPC failed last and whether a fault is raised. The
error callback should receive the status of the RPC that failed, and the fault flag should
agree with the history at each wait.
-/

namespace SpotSdk.Client

open SpotSdk.Common SpotSdk.Foundations

namespace DirectoryRegistrationKeepAlive

/-- The status of a registration that failed in any way, and that of the update after it
if that failed too. -/
structure RpcFailure where
  register : Status
  update : Option Status := none

/-- The status of the RPC that caused the failure. -/
def RpcFailure.cause (failure : RpcFailure) : Status :=
  failure.update.getD failure.register

def noteFailure (last : Option RpcFailure) : DirectoryEvent → Option RpcFailure
  | .alreadyExists status => some { register := status }
  | .registerFailed status _ => some { register := status }
  | .updateFailed status _ => last.map fun failure => { failure with update := some status }
  | .registered => none
  | .updated _ => none
  | _ => last

/-- The failure of the last iteration in a history, if it failed. -/
def lastFailure (es : List DirectoryEvent) : Option RpcFailure :=
  es.foldl noteFailure none

/-- A fault trigger succeeded, or the first clear failed while the fault was active. -/
def raises : DirectoryEvent → Prop
  | .start (some clearResult) =>
      clearResult.ok = false ∧ clearResult.response ≠ statusFaultNotActive
  | .registerFailed _ triggered => triggered = true
  | .updateFailed _ triggered => triggered = true
  | _ => False

/-- A registration or a fault clear succeeded. -/
def lowers : DirectoryEvent → Prop
  | .registered => True
  | .updated cleared => cleared = true
  | _ => False

/-- What a history promises: each callback receives the cause of the failure, and at each
wait the flag says whether a fault is raised. -/
structure ReportsFaults (keepAlive : DirectoryRegistrationKeepAlive)
    (es : List DirectoryEvent) : Prop where
  called {pre received answer post} : es = pre ++ .errorCallback received answer :: post →
    ∃ failure, lastFailure pre = some failure ∧ received = failure.cause
  active {pre interval again post s} : es = pre ++ .waitForInterval interval again :: post →
    Run (StepOf keepAlive.step) keepAlive.constructed pre s →
    (s.registrationFaultActive = true ↔ RaisedSince raises lowers pre)

/-- Where the callback is called after an update failed, the update failed with the status
of the registration. -/
def UpdatesFailAlike (es : List DirectoryEvent) : Prop :=
  ∀ pre received answer post failure status,
    es = pre ++ .errorCallback received answer :: post → lastFailure pre = some failure →
    failure.update = some status → status = failure.register

/-- The flag, and the status that is held after a failure, in terms of the history. -/
structure FollowsHistory (es : List DirectoryEvent) (s : DirectoryReregistration) : Prop where
  active : s.registrationFaultActive = true ↔ RaisedSince raises lowers es
  fresh : s.point = .constructed → s.registrationFaultActive = false
  updating {status} : s.point = .updating status →
    lastFailure es = some { register := status }
  failed {status} : s.point = .failed status →
    ∃ update, lastFailure es = some { register := status, update := update }

section Steps

variable {keepAlive : DirectoryRegistrationKeepAlive} {s t : DirectoryReregistration}
  {es : List DirectoryEvent} {e : DirectoryEvent}

theorem lastFailure_snoc : lastFailure (es ++ [e]) = noteFailure (lastFailure es) e := by
  rw [lastFailure, List.foldl_append]
  rfl

/-- Where nothing is held, only the flag has to agree with the history. -/
theorem FollowsHistory.of_settled (active : s.registrationFaultActive = true ↔
      RaisedSince raises lowers es)
    (settled : s.point = .registering ∨ s.point = .waiting ∨ s.point = .stopped) :
    FollowsHistory es s := by
  refine { active := active, fresh := ?_, updating := ?_, failed := ?_ }
  · intro other
    simp [other] at settled
  · intro status other
    simp [other] at settled
  · intro status other
    simp [other] at settled

/-- An event that does not touch the fault leaves the flag right. -/
theorem FollowsHistory.quiet (h : FollowsHistory es s) (noRaise : ¬raises e)
    (noLower : ¬lowers e) :
    s.registrationFaultActive = true ↔ RaisedSince raises lowers (es ++ [e]) := by
  rw [raisedSince_snoc, h.active]
  simp [noRaise, noLower]

/-- An event that lowers the fault if a clear succeeded. -/
theorem FollowsHistory.lowered (h : FollowsHistory es s) {cleared : Bool}
    (noRaise : ¬raises e) (lower : lowers e ↔ cleared = true) :
    (s.registrationFaultActive && !cleared) = true ↔ RaisedSince raises lowers (es ++ [e]) := by
  rw [raisedSince_snoc, ← h.active, lower]
  simp [noRaise]

/-- An event that raises the fault if a trigger succeeded. -/
theorem FollowsHistory.raised (h : FollowsHistory es s) {triggered : Bool}
    (raise : raises e ↔ triggered = true) (noLower : ¬lowers e) :
    (s.registrationFaultActive || triggered) = true ↔
      RaisedSince raises lowers (es ++ [e]) := by
  rw [raisedSince_snoc, ← h.active, raise, Bool.or_eq_true, or_comm]
  simp [noLower]

theorem act_registrationFaultActive (action : ErrorCallbackResult) :
    (keepAlive.act s action).registrationFaultActive = s.registrationFaultActive := by
  cases action <;> rfl

/-- After a failure branch nothing is held. -/
theorem FollowsHistory.acted (h : FollowsHistory es s) (action : ErrorCallbackResult)
    (noRaise : ¬raises e) (noLower : ¬lowers e) :
    FollowsHistory (es ++ [e]) (keepAlive.act s action) := by
  apply FollowsHistory.of_settled
  · rw [act_registrationFaultActive]
    exact h.quiet noRaise noLower
  · exact .inr (act_point keepAlive s action)

/-- Steps keep the flag and the held status. -/
theorem FollowsHistory.step (h : FollowsHistory es s) (hstep : StepOf keepAlive.step s e t) :
    FollowsHistory (es ++ [e]) t := by
  cases step_cases hstep with
  | start place client =>
      rename_i clearResult
      apply FollowsHistory.of_settled _ (.inl rfl)
      have before : ¬RaisedSince raises lowers es := by
        rw [← h.active, h.fresh place]
        decide
      rw [raisedSince_snoc]
      cases clearResult <;>
        simp [DirectoryRegistrationKeepAlive.start, raises, before]
  | registered place =>
      apply FollowsHistory.of_settled _ (.inr (.inl rfl))
      simp [DirectoryRegistrationKeepAlive.registered, raisedSince_snoc, raises, lowers]
  | alreadyExists place code =>
      refine ⟨h.quiet id id, by simp, ?_, by simp⟩
      rintro status ⟨⟩
      rw [lastFailure_snoc]
      rfl
  | registerFailed place code =>
      refine ⟨h.raised Iff.rfl id, by simp [failure], by simp [failure], ?_⟩
      rintro status ⟨⟩
      rw [lastFailure_snoc]
      exact ⟨none, rfl⟩
  | updated place => exact .of_settled (h.lowered id Iff.rfl) (.inr (.inl rfl))
  | updateFailed place =>
      refine ⟨h.raised Iff.rfl id, by simp [failure], by simp [failure], ?_⟩
      rintro status ⟨⟩
      rw [lastFailure_snoc, h.updating place]
      exact ⟨_, rfl⟩
  | errorCallback place => exact h.acted _ id id
  | noErrorCallback place => exact h.acted _ id id
  | waitForInterval place =>
      rename_i again
      cases again with
      | false => exact .of_settled (h.quiet id id) (.inr (.inr rfl))
      | true => exact .of_settled (h.quiet id id) (.inl rfl)

theorem followsHistory_constructed : FollowsHistory [] keepAlive.constructed where
  active := by simp [constructed, not_raisedSince_nil]
  fresh _ := rfl
  updating place := by simp [constructed] at place
  failed place := by simp [constructed] at place

theorem followsHistory (run : Run (StepOf keepAlive.step) keepAlive.constructed es s) :
    FollowsHistory es s :=
  run.recorded followsHistory_constructed FollowsHistory.step

/-- A callback is called with the status of the registration. -/
theorem called_register {pre post : List DirectoryEvent} {received : Status}
    {answer : Option ErrorCallbackResult}
    (run : Run (StepOf keepAlive.step) keepAlive.constructed
      (pre ++ .errorCallback received answer :: post) s) :
    ∃ update, lastFailure pre = some { register := received, update := update } := by
  obtain ⟨t, before, after⟩ := run.split
  cases after with
  | cons step _ =>
      cases step_cases step with
      | errorCallback place => exact (followsHistory before).failed place

end Steps

/-- A run keeps its promise exactly when each callback after a failed update finds it
failed with the status of the registration. -/
theorem reportsFaults_iff {keepAlive : DirectoryRegistrationKeepAlive}
    {es : List DirectoryEvent} {s : DirectoryReregistration}
    (run : Run (StepOf keepAlive.step) keepAlive.constructed es s) :
    ReportsFaults keepAlive es ↔ UpdatesFailAlike es := by
  constructor
  · intro reports pre received answer post failure status split last failed
    obtain ⟨other, same, cause⟩ := reports.called split
    obtain rfl := Option.some.inj (last.symm.trans same)
    subst split
    obtain ⟨update, noted⟩ := called_register run
    obtain rfl := Option.some.inj (last.symm.trans noted)
    rw [RpcFailure.cause, failed] at cause
    exact cause.symm
  · intro alike
    refine { called := ?_, active := ?_ }
    · intro pre received answer post split
      subst split
      obtain ⟨update, noted⟩ := called_register run
      refine ⟨_, noted, ?_⟩
      cases update with
      | none => rfl
      | some status => exact (alike pre received answer post _ status rfl noted rfl).symm
    · intro pre interval again post t split before
      exact (followsHistory before).active

/-- The service is there already, as the status of its registration says. -/
def existsStatus : Status := ⟨serviceAlreadyExists, ""⟩

/-- The update found no service of the name. -/
def nonexistentServiceStatus : Status := ⟨⟨⟨"UpdateServiceResponse_Status", [1]⟩, 2⟩, ""⟩

/-- A registration fails, the update after the next one fails with the same status as
that and raises a fault, and the last registration succeeds. -/
def recoveryEvents : List DirectoryEvent :=
  [.start (some ⟨⟨SDKErrorCode.success.code, ""⟩, 1⟩),
    .registerFailed nonexistentServiceStatus false,
    .errorCallback nonexistentServiceStatus (some .retryImmediately), .waitForInterval 0 true,
    .alreadyExists existsStatus, .updateFailed existsStatus true,
    .errorCallback existsStatus (some .retryImmediately), .waitForInterval 0 true,
    .registered, .waitForInterval 30000000000 true]

/-- A keep-alive with a fault client and an error callback. -/
def faultReporter : DirectoryRegistrationKeepAlive :=
  { faultClient := true, errorCallback := true }

theorem recovery_reportsFaults :
    (∃ s, Run (StepOf faultReporter.step) faultReporter.constructed recoveryEvents s) ∧
      ReportsFaults faultReporter recoveryEvents := by
  have run : ∃ s, Run (StepOf faultReporter.step) faultReporter.constructed recoveryEvents s :=
    ⟨_, .cons rfl (.cons rfl (.cons rfl (.cons rfl (.cons rfl (.cons rfl (.cons rfl
      (.cons rfl (.cons rfl (.cons rfl (.nil _))))))))))⟩
  refine ⟨run, ?_⟩
  obtain ⟨s, run⟩ := run
  refine (reportsFaults_iff run).mpr ?_
  intro pre received answer post failure status split last failed
  have front : pre = recoveryEvents.take pre.length := by rw [split, List.take_left]
  have call : recoveryEvents[pre.length]? = some (.errorCallback received answer) := by
    rw [split]
    simp
  have inside : pre.length < 10 := (List.getElem?_eq_some_iff.mp call).choose
  rw [front] at last
  generalize pre.length = n at last call inside
  -- the callback is called at the third event and at the seventh
  have place : n = 2 ∨ n = 6 := by
    match n, inside with
    | 0, _ | 1, _ | 3, _ | 4, _ | 5, _ | 7, _ | 8, _ | 9, _ => simp [recoveryEvents] at call
    | 2, _ | 6, _ => simp
  rcases place with rfl | rfl
  · obtain rfl := Option.some.inj last
    cases failed
  · obtain rfl := Option.some.inj last
    exact (Option.some.inj failed).symm

/-- The update fails after the service was found to exist. -/
def failedUpdateEvents : List DirectoryEvent :=
  [.start none, .alreadyExists existsStatus, .updateFailed nonexistentServiceStatus false,
    .errorCallback existsStatus none]

/-- The callback receives the status that the service exists. -/
theorem failedUpdate_not_reportsFaults :
    (∃ s, Run (StepOf (step { errorCallback := true }))
      (constructed { errorCallback := true }) failedUpdateEvents s) ∧
    ¬ReportsFaults { errorCallback := true } failedUpdateEvents := by
  constructor
  · exact ⟨_, .cons rfl (.cons rfl (.cons rfl (.cons rfl (.nil _))))⟩
  · intro reports
    have split : failedUpdateEvents = [.start none, .alreadyExists existsStatus,
        .updateFailed nonexistentServiceStatus false] ++
          .errorCallback existsStatus none :: [] := rfl
    obtain ⟨failure, last, cause⟩ := reports.called split
    obtain rfl := Option.some.inj last
    exact absurd cause (by decide)

end DirectoryRegistrationKeepAlive

end SpotSdk.Client
