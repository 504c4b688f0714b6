import SpotSdk.Foundations.RunMeasures
import SpotSdk.Foundations.StopFlags
import SpotSdk.KeepAlive.DirectoryRegistration
import SpotSdk.KeepAlive.RetryBackOff

/-!
# Stopping the periodic threads

The threads of the payload registration, of the directory registration and of the token
manager wait with a `PeriodicThreadHelper`. Once `Stop` has set its flag none of them begins
another turn, in any interleaving with the callers of `Stop`. A thread that sleeps then is
still to be notified, and until it has ended nothing keeps it from its next step.
-/

namespace SpotSdk.Client

open Foundations Common

/-! ## The payload registration -/

/-- The end of a wait, and whether the loop goes on. -/
def PayloadEvent.again : PayloadEvent → Option Bool
  | .waitForInterval _ again => some again
  | _ => none

/-- A call of `RegisterPayload`. -/
def PayloadEvent.isRegister : PayloadEvent → Bool
  | .registered _ | .registerFailed _ => true
  | _ => false

namespace PayloadRegistrationKeepAlive

variable (keepAlive : PayloadRegistrationKeepAlive)

/-- `PeriodicReregisterThreadMethod` over its helper. -/
def worker : WaitingWorker PayloadReregistration PayloadEvent where
  step := keepAlive.step
  atWait s := s.point == .waiting
  goesOn := PayloadEvent.again

/-- The steps to the end of the loop if no wait lets it go on. -/
def stepsLeft (s : PayloadReregistration) : Nat :=
  match s.point with
  | .registering => 3
  | .failed _ => 2
  | .waiting => 1
  | .stopped => 0

def registersLeft (s : PayloadReregistration) : Nat :=
  match s.point with
  | .registering => 1
  | _ => 0

variable {keepAlive} {s t : PayloadReregistration} {e : PayloadEvent}

theorem act_stepsLeft (action : ErrorCallbackResult) : stepsLeft (keepAlive.act s action) ≤ 1 := by
  cases action <;> simp [act, resume, stepsLeft]

theorem act_registersLeft (action : ErrorCallbackResult) :
    registersLeft (keepAlive.act s action) = 0 := by
  cases action <;> simp [act, resume, registersLeft]

/-- A step of a loop that is not let go on. -/
theorem final_step (hstep : keepAlive.worker.Final s e t) :
    1 + stepsLeft t ≤ stepsLeft s ∧
      e.isRegister.toNat + registersLeft t ≤ registersLeft s := by
  obtain ⟨hstep, ends⟩ := hstep
  have taken : keepAlive.step s e = some t := hstep
  unfold step at taken
  split at taken
  case h_1 status place =>
    split_ifs at taken
    obtain rfl := Option.some.inj taken
    simp [stepsLeft, registersLeft, place, resume, PayloadEvent.isRegister]
  case h_2 status place =>
    split_ifs at taken
    obtain rfl := Option.some.inj taken
    simp [stepsLeft, registersLeft, place, PayloadEvent.isRegister]
  case h_3 status received answer place =>
    split_ifs at taken
    obtain rfl := Option.some.inj taken
    have left : stepsLeft (keepAlive.act s (answer.getD .resumeNormalOperation)) ≤ 1 :=
      act_stepsLeft _
    rw [act_registersLeft]
    simp only [stepsLeft, registersLeft, place, PayloadEvent.isRegister] at left ⊢
    exact ⟨by omega, le_refl _⟩
  case h_4 status place =>
    split_ifs at taken
    obtain rfl := Option.some.inj taken
    simp [stepsLeft, registersLeft, place, act, resume, PayloadEvent.isRegister]
  case h_5 interval again place =>
    split_ifs at taken
    obtain rfl := Option.some.inj taken
    cases again with
    | true => exact absurd rfl ends
    | false => simp [stepsLeft, registersLeft, place, waited, PayloadEvent.isRegister]
  case h_6 => cases taken

theorem pays_steps :
    Pays keepAlive.worker.Final (fun _ => True) (fun _ => true) stepsLeft :=
  ⟨fun _ _ => trivial, fun _ hstep => (final_step hstep).1⟩

theorem pays_registers :
    Pays keepAlive.worker.Final (fun _ => True) PayloadEvent.isRegister registersLeft :=
  ⟨fun _ _ => trivial, fun _ hstep => (final_step hstep).2⟩

/-- A loop that has not ended has a step to take. -/
theorem ready (running : s.point ≠ .stopped) : keepAlive.worker.Ready s where
  waiting atWait := by
    have place : s.point = .waiting := beq_iff_eq.mp atWait
    exact ⟨.waitForInterval s.waitTime false, rfl, by simp [worker, step, place]⟩
  working notWaiting := by
    cases place : s.point with
    | registering =>
        have taken : accepted ⟨payloadAlreadyExists, ""⟩ = true := by decide
        exact ⟨.registered ⟨payloadAlreadyExists, ""⟩, rfl, by simp [worker, step, place, taken]⟩
    | failed status =>
        cases called : keepAlive.errorCallback with
        | true => exact ⟨.errorCallback status none, rfl, by simp [worker, step, place, called]⟩
        | false => exact ⟨.noErrorCallback, rfl, by simp [worker, step, place, called]⟩
    | waiting => simp [worker, place] at notWaiting
    | stopped => exact absurd place running

/-- After `Stop` has set the flag, the thread makes no call but one that it has begun, and
takes the steps to the end of its loop at most. It does not sleep unless a notification is
still to come, and nothing keeps it from its next step before its end. -/
theorem payload_thread_stops {pre post : List (StopEvent PayloadEvent)}
    {u v : Stoppable PayloadReregistration PayloadEvent}
    (before : Run (StepOf (Stoppable.step keepAlive.worker)) { worker := keepAlive.started } pre u)
    (after : Run (StepOf (Stoppable.step keepAlive.worker)) u (.raise :: post) v) :
    Run (StepOf keepAlive.step) keepAlive.started v.trace v.worker ∧
      ∃ labels, v.trace = u.trace ++ labels ∧
        labels.length ≤ stepsLeft u.worker ∧
        labels.countP PayloadEvent.isRegister ≤ registersLeft u.worker ∧
        (v.place = .asleep → v.shouldExit = true → 0 < v.owed) ∧
        (v.worker.point ≠ .stopped → Stoppable.Proceeds keepAlive.worker v) := by
  have waits := Stoppable.waitsAsleep_of_run before fun notAwake => absurd rfl notAwake
  obtain ⟨labels, trace, final, owes, proceeds⟩ := Stoppable.final_after_raise after waits
  have steps := pays_steps.countP_le final trivial
  rw [List.countP_true] at steps
  exact ⟨(Stoppable.run_of_fresh (before.append after)).1, labels, trace, steps,
    pays_registers.countP_le final trivial, owes, proceeds ∘ ready⟩

/-- The flag is set while the first call is made. -/
def stoppedInCall : List (StopEvent PayloadEvent) :=
  [.raise, .work (.registered ⟨⟨registerPayloadStatusCategory, 1⟩, ""⟩), .notifyAll,
    .returnAtOnce (.waitForInterval 30000000000 false)]

theorem payload_thread_stops_inCall :
    ∃ v, Run (StepOf (Stoppable.step (worker {}))) { worker := started {} } stoppedInCall v ∧
      v.trace.countP PayloadEvent.isRegister ≤ 1 := by
  have after : Run (StepOf (Stoppable.step (worker {}))) { worker := started {} }
      stoppedInCall _ :=
    .cons rfl (.cons rfl (.cons rfl (.cons rfl (.nil _))))
  obtain ⟨_, labels, trace, _, calls, _⟩ := payload_thread_stops (.nil _) after
  refine ⟨_, after, ?_⟩
  rw [trace]
  exact calls

end PayloadRegistrationKeepAlive

/-! ## The directory registration -/

def DirectoryEvent.again : DirectoryEvent → Option Bool
  | .waitForInterval _ again => some again
  | _ => none

/-- A call of `RegisterService`. -/
def DirectoryEvent.isRegister : DirectoryEvent → Bool
  | .registered | .alreadyExists _ | .registerFailed .. => true
  | _ => false

/-- A call of `UpdateService`. -/
def DirectoryEvent.isUpdate : DirectoryEvent → Bool
  | .updated _ | .updateFailed .. => true
  | _ => false

/-- A service fault is triggered. -/
def DirectoryEvent.triggers : DirectoryEvent → Bool
  | .registerFailed _ triggered => triggered
  | .updateFailed _ triggered => triggered
  | _ => false

namespace DirectoryRegistrationKeepAlive

variable (keepAlive : DirectoryRegistrationKeepAlive)

/-- `PeriodicReregisterThreadMethod` over its helper. -/
def worker : WaitingWorker DirectoryReregistration DirectoryEvent where
  step := keepAlive.step
  atWait s := s.point == .waiting
  goesOn := DirectoryEvent.again

/-- The steps to the end of the loop if no wait lets it go on. -/
def stepsLeft (s : DirectoryReregistration) : Nat :=
  match s.point with
  | .constructed => 5
  | .registering => 4
  | .updating _ => 3
  | .failed _ => 2
  | .waiting => 1
  | .stopped => 0

def registersLeft (s : DirectoryReregistration) : Nat :=
  match s.point with
  | .constructed | .registering => 1
  | _ => 0

/-- The updates, and the faults that are triggered, up to the end of the loop. -/
def updatesLeft (s : DirectoryReregistration) : Nat :=
  match s.point with
  | .constructed | .registering | .updating _ => 1
  | _ => 0

/-- What a step of a loop that is not let go on costs. -/
structure Winds (s : DirectoryReregistration) (e : DirectoryEvent) (t : DirectoryReregistration) :
    Prop where
  steps : 1 + stepsLeft t ≤ stepsLeft s
  registers : e.isRegister.toNat + registersLeft t ≤ registersLeft s
  updates : e.isUpdate.toNat + updatesLeft t ≤ updatesLeft s
  triggers : e.triggers.toNat + updatesLeft t ≤ updatesLeft s

variable {keepAlive} {s t : DirectoryReregistration} {e : DirectoryEvent}

theorem winds_of_act {passed : Status} (place : s.point = .failed passed)
    (action : ErrorCallbackResult) (silent : e.isRegister = false ∧ e.isUpdate = false ∧
      e.triggers = false) : Winds s e (keepAlive.act s action) := by
  rcases keepAlive.act_point s action with next | next <;>
    constructor <;> simp [stepsLeft, registersLeft, updatesLeft, place, next, silent]

theorem final_step (hstep : keepAlive.worker.Final s e t) : Winds s e t := by
  obtain ⟨taken, ends⟩ := hstep
  cases step_cases taken with
  | errorCallback place => exact winds_of_act place _ ⟨rfl, rfl, rfl⟩
  | noErrorCallback place => exact winds_of_act place _ ⟨rfl, rfl, rfl⟩
  | @waitForInterval again place =>
      cases again with
      | true => exact absurd rfl ends
      | false =>
          constructor <;> simp [stepsLeft, registersLeft, updatesLeft, place, waited,
            DirectoryEvent.isRegister, DirectoryEvent.isUpdate, DirectoryEvent.triggers]
  | @registerFailed _ triggered place _ =>
      constructor <;> cases triggered <;> simp [stepsLeft, registersLeft, updatesLeft, place,
        failure, DirectoryEvent.isRegister, DirectoryEvent.isUpdate, DirectoryEvent.triggers]
  | @updateFailed _ _ triggered place =>
      constructor <;> cases triggered <;> simp [stepsLeft, registersLeft, updatesLeft, place,
        failure, DirectoryEvent.isRegister, DirectoryEvent.isUpdate, DirectoryEvent.triggers]
  | start place _ | registered place | alreadyExists place _ | updated place =>
      constructor <;> simp [stepsLeft, registersLeft, updatesLeft, place, start, registered,
        updated, DirectoryEvent.isRegister, DirectoryEvent.isUpdate, DirectoryEvent.triggers]

/-- A loop that has begun and not ended has a step to take. -/
theorem ready (begun : s.point ≠ .constructed) (running : s.point ≠ .stopped) :
    keepAlive.worker.Ready s where
  waiting atWait := by
    have place : s.point = .waiting := beq_iff_eq.mp atWait
    exact ⟨.waitForInterval s.waitInterval false, rfl, by simp [worker, step, place]⟩
  working notWaiting := by
    cases place : s.point with
    | constructed => exact absurd place begun
    | registering => exact ⟨.registered, rfl, by simp [worker, step, place]⟩
    | updating status => exact ⟨.updated false, rfl, by simp [worker, step, place]⟩
    | failed passed =>
        cases called : keepAlive.errorCallback with
        | true => exact ⟨.errorCallback passed none, rfl, by simp [worker, step, place, called]⟩
        | false => exact ⟨.noErrorCallback, rfl, by simp [worker, step, place, called]⟩
    | waiting => simp [worker, place] at notWaiting
    | stopped => exact absurd place running

/-- After `Stop` has set the flag, the thread ends its turn, with the calls of that turn
only, and no new one begins. Once it has begun nothing keeps it from its next step before
its end. -/
theorem directory_thread_stops {pre post : List (StopEvent DirectoryEvent)}
    {u v : Stoppable DirectoryReregistration DirectoryEvent}
    (before : Run (StepOf (Stoppable.step keepAlive.worker)) { worker := keepAlive.constructed }
      pre u)
    (after : Run (StepOf (Stoppable.step keepAlive.worker)) u (.raise :: post) v) :
    Run (StepOf keepAlive.step) keepAlive.constructed v.trace v.worker ∧
      ∃ labels, v.trace = u.trace ++ labels ∧
        labels.length ≤ stepsLeft u.worker ∧
        labels.countP DirectoryEvent.isRegister ≤ registersLeft u.worker ∧
        labels.countP DirectoryEvent.isUpdate ≤ updatesLeft u.worker ∧
        labels.countP DirectoryEvent.triggers ≤ updatesLeft u.worker ∧
        (v.place = .asleep → v.shouldExit = true → 0 < v.owed) ∧
        (v.worker.point ≠ .constructed → v.worker.point ≠ .stopped →
          Stoppable.Proceeds keepAlive.worker v) := by
  have waits := Stoppable.waitsAsleep_of_run before fun notAwake => absurd rfl notAwake
  obtain ⟨labels, trace, final, owes, proceeds⟩ := Stoppable.final_after_raise after waits
  have pays {p : DirectoryEvent → Bool} {measure : DirectoryReregistration → Nat}
      (costs : ∀ {s e t}, Winds s e t → (p e).toNat + measure t ≤ measure s) :
      labels.countP p ≤ measure u.worker :=
    Pays.countP_le (I := fun _ => True)
      ⟨fun _ _ => trivial, fun _ hstep => costs (final_step hstep)⟩ final trivial
  have steps := pays (p := fun _ => true) Winds.steps
  rw [List.countP_true] at steps
  exact ⟨(Stoppable.run_of_fresh (before.append after)).1, labels, trace, steps,
    pays Winds.registers, pays Winds.updates, pays Winds.triggers, owes,
    fun begun running => proceeds (ready begun running)⟩

/-- The thread has registered its service and sleeps. -/
def asleepAfterTurn : Stoppable DirectoryReregistration DirectoryEvent where
  worker := registered {} (start (constructed {}) none)
  trace := [.start none, .registered]
  place := .asleep

theorem directory_thread_stops_asleep :
    ∃ v, Run (StepOf (Stoppable.step (worker {}))) asleepAfterTurn
        [.raise, .notifyAll, .resume (.waitForInterval 30000000000 false)] v ∧
      v.trace = [.start none, .registered, .waitForInterval 30000000000 false] ∧
      Run (StepOf (step {})) (constructed {}) v.trace v.worker := by
  have before : Run (StepOf (Stoppable.step (worker {}))) { worker := constructed {} }
      [.work (.start none), .work .registered, .fallAsleep] asleepAfterTurn :=
    .cons rfl (.cons rfl (.cons rfl (.nil _)))
  have after : Run (StepOf (Stoppable.step (worker {}))) asleepAfterTurn
      [.raise, .notifyAll, .resume (.waitForInterval 30000000000 false)] _ :=
    .cons rfl (.cons rfl (.cons rfl (.nil _)))
  exact ⟨_, after, rfl, (directory_thread_stops before after).1⟩

end DirectoryRegistrationKeepAlive

/-! ## The token manager -/

def UpdateEvent.again : UpdateEvent → Option Bool
  | .waitForInterval _ again _ => some again
  | _ => none

/-- An `AuthenticateWithToken` of the loop ends. -/
def UpdateEvent.isRefresh : UpdateEvent → Bool
  | .authenticated | .authenticationFailed .. => true
  | _ => false

namespace TokenManager

/-- `Update` over its helper. -/
def worker : WaitingWorker TokenManager UpdateEvent where
  step := TokenManager.update
  atWait manager := manager.loop == .waiting
  goesOn := UpdateEvent.again

def stepsLeft (manager : TokenManager) : Nat :=
  match manager.loop with
  | .authenticating _ => 3
  | .calling _ => 2
  | .waiting => 1
  | _ => 0

/-- A refresh ends if it has begun. -/
def refreshesLeft (manager : TokenManager) : Nat :=
  match manager.loop with
  | .authenticating _ => 1
  | _ => 0

variable {manager next : TokenManager} {e : UpdateEvent}

theorem react_loop (result : ErrorCallbackResult) :
    (manager.react result).loop = .waiting ∨ (manager.react result).loop = .leaving := by
  cases result <;> simp [react, resumeNormalOperation]

/-- A step of a loop that is not let go on. -/
theorem final_step (hstep : worker.Final manager e next) :
    1 + next.stepsLeft ≤ manager.stepsLeft ∧
      e.isRefresh.toNat + next.refreshesLeft = manager.refreshesLeft := by
  obtain ⟨hstep, ends⟩ := hstep
  have taken : manager.update e = some next := hstep
  have reacted (manager : TokenManager) (result : ErrorCallbackResult) :
      (manager.react result).stepsLeft ≤ 1 ∧ (manager.react result).refreshesLeft = 0 := by
    rcases manager.react_loop result with loop | loop <;> simp [stepsLeft, refreshesLeft, loop]
  unfold update at taken
  split at taken
  case h_1 interval again userToken place =>
    split_ifs at taken with same going
    · exact absurd (congrArg some going) ends
    · obtain rfl := Option.some.inj taken
      simp [stepsLeft, refreshesLeft, place, leave, UpdateEvent.isRefresh]
  case h_2 token place =>
    obtain rfl := Option.some.inj taken
    simp [stepsLeft, refreshesLeft, place, resumeNormalOperation, UpdateEvent.isRefresh]
  case h_3 token status callback place =>
    split_ifs at taken
    obtain rfl := Option.some.inj taken
    have left := reacted { manager with callback } .retryWithExponentialBackOff
    unfold failed
    split_ifs
    · simp [stepsLeft, refreshesLeft, place, UpdateEvent.isRefresh]
    · rw [left.2]
      simp only [stepsLeft, refreshesLeft, place, UpdateEvent.isRefresh] at left ⊢
      exact ⟨by omega, rfl⟩
  case h_4 status answer place =>
    obtain rfl := Option.some.inj taken
    have left := reacted manager (answer.getD .retryWithExponentialBackOff)
    rw [called, left.2]
    simp only [stepsLeft, refreshesLeft, place, UpdateEvent.isRefresh] at left ⊢
    exact ⟨by omega, rfl⟩
  case h_5 => cases taken

/-- A refresh that has begun goes on until it ends, and no other one begins. -/
theorem refreshes_of_final {labels : List UpdateEvent}
    (run : Run worker.Final manager labels next) :
    labels.countP UpdateEvent.isRefresh + next.refreshesLeft = manager.refreshesLeft := by
  induction run with
  | nil => exact Nat.zero_add _
  | @cons _ e _ _ _ first _ ih =>
      have here := (final_step first).2
      rw [List.countP_cons, ← here, ← ih]
      cases e.isRefresh with
      | true =>
          rw [if_pos rfl, Bool.toNat_true]
          omega
      | false => simp

/-- A loop that has not ended has a step to take. -/
theorem ready (running : 0 < manager.stepsLeft) : worker.Ready manager where
  waiting atWait := by
    have place : manager.loop = .waiting := beq_iff_eq.mp atWait
    exact ⟨.waitForInterval manager.waitInterval false "", rfl, by simp [worker, update, place]⟩
  working notWaiting := by
    cases place : manager.loop with
    | waiting => simp [worker, place] at notWaiting
    | authenticating token => exact ⟨.authenticated, rfl, by simp [worker, update, place]⟩
    | calling status => exact ⟨.callbackAnswered none, rfl, by simp [worker, update, place]⟩
    | storing | caching | leaving | left => simp [stepsLeft, place] at running

/-- After `Stop` has set the flag no refresh begins. One that has begun still ends, with the
call of the callback that it leads to, and nothing keeps the thread from its next step before
its end. -/
theorem refresh_thread_stops {initial regular : Int} {pre post : List (StopEvent UpdateEvent)}
    {u v : Stoppable TokenManager UpdateEvent}
    (before : Run (StepOf (Stoppable.step worker)) { worker := tokenManager initial regular }
      pre u)
    (after : Run (StepOf (Stoppable.step worker)) u (.raise :: post) v) :
    Run (StepOf update) (tokenManager initial regular) v.trace v.worker ∧
      ∃ labels, v.trace = u.trace ++ labels ∧
        (∀ e ∈ labels, e.again ≠ some true) ∧
        labels.length ≤ u.worker.stepsLeft ∧
        labels.countP UpdateEvent.isRefresh + v.worker.refreshesLeft = u.worker.refreshesLeft ∧
        (v.place = .asleep → v.shouldExit = true → 0 < v.owed) ∧
        (0 < v.worker.stepsLeft → Stoppable.Proceeds worker v) := by
  have waits := Stoppable.waitsAsleep_of_run before fun notAwake => absurd rfl notAwake
  obtain ⟨labels, trace, final, owes, proceeds⟩ := Stoppable.final_after_raise after waits
  have pays : Pays worker.Final (fun _ => True) (fun _ => true) stepsLeft :=
    ⟨fun _ _ => trivial, fun _ hstep => (final_step hstep).1⟩
  have steps := pays.countP_le final trivial
  rw [List.countP_true] at steps
  exact ⟨(Stoppable.run_of_fresh (before.append after)).1, labels, trace, final.labels_of_guard,
    steps, refreshes_of_final final, owes, proceeds ∘ ready⟩

/-- The flag is set while a token is refreshed. -/
def stoppedInRefresh : Stoppable TokenManager UpdateEvent where
  worker := { tokenManager 1 10 with loop := .authenticating "token" }
  trace := [.waitForInterval 10 true "token"]

theorem refresh_thread_stops_inRefresh :
    ∃ v, Run (StepOf (Stoppable.step worker)) stoppedInRefresh
        [.raise, .work .authenticated, .notifyAll, .returnAtOnce (.waitForInterval 10 false "")] v ∧
      v.trace = [.waitForInterval 10 true "token", .authenticated, .waitForInterval 10 false ""] ∧
      Run (StepOf update) (tokenManager 1 10) v.trace v.worker := by
  have before : Run (StepOf (Stoppable.step worker)) { worker := tokenManager 1 10 }
      [.fallAsleep, .wake true, .resume (.waitForInterval 10 true "token")] stoppedInRefresh :=
    .cons rfl (.cons rfl (.cons rfl (.nil _)))
  have after : Run (StepOf (Stoppable.step worker)) stoppedInRefresh
      [.raise, .work .authenticated, .notifyAll, .returnAtOnce (.waitForInterval 10 false "")] _ :=
    .cons rfl (.cons rfl (.cons rfl (.cons rfl (.nil _))))
  exact ⟨_, after, rfl, (refresh_thread_stops before after).1⟩

end TokenManager

end SpotSdk.Client
