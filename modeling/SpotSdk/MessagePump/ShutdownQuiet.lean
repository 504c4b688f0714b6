import Mathlib.Logic.Function.Basic
import SpotSdk.Foundations.LabelledRuns
import SpotSdk.MessagePump.CallMachines

/-!
# Callbacks and the shutdown of a shared pump

Any number of threads call `CompleteOne` on one pump, and any number of other threads
request its shutdown. A callback runs inside of `CompleteOne`, for as long as it likes,
while its thread holds `m_shutdown_mutex`.
-/

namespace SpotSdk.Client

open SpotSdk.Foundations SpotSdk.Common

variable {ω κ ρ Req Resp : Type}

/-- A `MessagePumpCallBase` in the tracker, of one of the four kinds. -/
inductive TrackedCall (Req Resp : Type)
  | unary (call : Call Unit Req Resp)
  | requestStream (call : Call RequestStreamCall.NextStep Req Resp)
  | responseStream (call : Call ResponseStreamCall.NextStep Req Resp)
  | requestResponseStream (call : Call RequestResponseStreamCall.NextStep Req Resp)

namespace TrackedCall

/-- gRPC fills in the members of a call before it raises an event. -/
def fill (op : GrpcOp Req) (success : Bool) (message : Resp) (status : GrpcStatus) :
    TrackedCall Req Resp → TrackedCall Req Resp
  | .unary call => .unary (call.fill op success message status)
  | .requestStream call => .requestStream (call.fill op success message status)
  | .responseStream call => .responseStream (call.fill op success message status)
  | .requestResponseStream call => .requestResponseStream (call.fill op success message status)

def onCompletionQueueEvent (success : Bool) :
    TrackedCall Req Resp → TrackedCall Req Resp × List (CallAction Req Resp) × Bool
  | .unary call => (UnaryCall.onCompletionQueueEvent call success).map .unary id
  | .requestStream call =>
      (RequestStreamCall.onCompletionQueueEvent call success).map .requestStream id
  | .responseStream call =>
      (ResponseStreamCall.onCompletionQueueEvent call success).map .responseStream id
  | .requestResponseStream call =>
      (RequestResponseStreamCall.onCompletionQueueEvent call success).map .requestResponseStream id

def cancel : TrackedCall Req Resp → TrackedCall Req Resp
  | .unary call => .unary call.cancel.1
  | .requestStream call => .requestStream call.cancel.1
  | .responseStream call => .responseStream call.cancel.1
  | .requestResponseStream call => .requestResponseStream call.cancel.1

end TrackedCall

/-- What `AsyncNext` returns. An event comes with what gRPC has stored for it. -/
inductive NextStatus (κ Req Resp : Type)
  | shutdown
  | timeout
  | gotEvent (tag : Option κ) (op : GrpcOp Req) (ok : Bool) (message : Resp) (status : GrpcStatus)

/-- Where a thread is in `CompleteOne`: outside of it, before it takes the mutex, with
actions of an event handler to take, in a callback, or done with the update loop. The
flag tells whether the call is removed at the end. -/
inductive WorkerPoint (κ Req Resp : Type)
  | idle
  | polled (next : NextStatus κ Req Resp)
  | handling (call : κ) (actions : List (CallAction Req Resp)) (removes : Bool)
  | calling (call : κ) (actions : List (CallAction Req Resp)) (removes : Bool)
  | stopped

/-- Where a thread is in `RequestShutdown`. -/
inductive RequestPoint
  | idle
  | requested
  | cancelled
  | queueShutdown
  | joined
  | returned
  deriving DecidableEq

/-- A pump that several threads share. `holder` is the worker that holds the mutex, and
`callbacks` counts the callbacks that were begun. -/
structure SharedPump (ω κ ρ Req Resp : Type) where
  autoUpdate : Option ω
  shutdownRequested : Bool := false
  queueOpen : Bool := true
  holder : Option ω := none
  calls : κ → Option (TrackedCall Req Resp) := fun _ => none
  workers : ω → WorkerPoint κ Req Resp := fun _ => .idle
  requests : ρ → RequestPoint := fun _ => .idle
  callbacks : Nat := 0

inductive SharedPumpStep (ω κ ρ Req Resp : Type)
  | addCall (id : κ) (call : TrackedCall Req Resp)
  | asyncNext (worker : ω) (next : NextStatus κ Req Resp)
  | lock (worker : ω)
  | act (worker : ω)
  | callbackReturns (worker : ω)
  | release (worker : ω)
  | requestShutdown (caller : ρ)
  | cancelAll (caller : ρ)
  | shutdownQueue (caller : ρ)
  | join (caller : ρ)
  | removeAllCalls (caller : ρ)

namespace SharedPump

def goto [DecidableEq ω] (s : SharedPump ω κ ρ Req Resp) (worker : ω)
    (point : WorkerPoint κ Req Resp) : SharedPump ω κ ρ Req Resp :=
  { s with workers := Function.update s.workers worker point }

/-- `CompleteOne` returns `Shutdown`, which ends the update loop. -/
def returnShutdown [DecidableEq ω] (s : SharedPump ω κ ρ Req Resp) (worker : ω) :
    SharedPump ω κ ρ Req Resp :=
  s.goto worker (if s.autoUpdate = some worker then .stopped else .idle)

def request [DecidableEq ρ] (s : SharedPump ω κ ρ Req Resp) (caller : ρ)
    (point : RequestPoint) : SharedPump ω κ ρ Req Resp :=
  { s with requests := Function.update s.requests caller point }

variable [DecidableEq ω] [DecidableEq κ]

/-- The block of `CompleteOne` that holds the mutex, up to the first action. A step that
finds a deleted call is no step: only `RemoveCall` deletes a call before the shutdown. -/
def complete (s : SharedPump ω κ ρ Req Resp) (worker : ω) (next : NextStatus κ Req Resp) :
    Option (SharedPump ω κ ρ Req Resp) :=
  if s.shutdownRequested then some (s.returnShutdown worker)
  else match next with
    | .shutdown => some (s.returnShutdown worker)
    | .timeout => some (s.goto worker .idle)
    | .gotEvent none _ _ _ _ => some (s.goto worker .idle)
    | .gotEvent (some id) op ok message status =>
        (s.calls id).map fun call =>
          let handled := (call.fill op ok message status).onCompletionQueueEvent ok
          { s.goto worker (.handling id handled.2.1 handled.2.2) with
            holder := some worker
            calls := Function.update s.calls id (some handled.1) }

def step [DecidableEq ρ] (s : SharedPump ω κ ρ Req Resp) :
    SharedPumpStep ω κ ρ Req Resp → Option (SharedPump ω κ ρ Req Resp)
  | .addCall id call => some { s with calls := Function.update s.calls id (some call) }
  | .asyncNext worker next =>
      match s.workers worker with
      | .idle => some (s.goto worker (.polled next))
      | _ => none
  | .lock worker =>
      match s.workers worker, s.holder with
      | .polled next, none => s.complete worker next
      | _, _ => none
  | .act worker =>
      match s.workers worker with
      | .handling id (.callback _ _ _ _ :: actions) removes =>
          some { s.goto worker (.calling id actions removes) with callbacks := s.callbacks + 1 }
      | .handling id (_ :: actions) removes => some (s.goto worker (.handling id actions removes))
      | _ => none
  | .callbackReturns worker =>
      match s.workers worker with
      | .calling id actions removes => some (s.goto worker (.handling id actions removes))
      | _ => none
  | .release worker =>
      match s.workers worker with
      | .handling id [] removes => some { s.goto worker .idle with
          holder := none
          calls := if removes then Function.update s.calls id none else s.calls }
      | _ => none
  -- the locked block, which returns at once if the flag is set
  | .requestShutdown caller =>
      match s.requests caller, s.holder with
      | .idle, none =>
          if s.shutdownRequested then some (s.request caller .returned)
          else some { s.request caller .requested with shutdownRequested := true }
      | _, _ => none
  | .cancelAll caller =>
      if s.requests caller = .requested then
        some { s.request caller .cancelled with calls := fun id => (s.calls id).map .cancel }
      else none
  | .shutdownQueue caller =>
      if s.requests caller = .cancelled then
        some { s.request caller .queueShutdown with queueOpen := false }
      else none
  -- `join` waits for the end of the update loop
  | .join caller =>
      if s.requests caller = .queueShutdown then
        match s.autoUpdate with
        | none => some (s.request caller .joined)
        | some worker =>
            match s.workers worker with
            | .stopped => some { s.request caller .joined with autoUpdate := none }
            | _ => none
      else none
  | .removeAllCalls caller =>
      if s.requests caller = .joined then
        some { s.request caller .returned with calls := fun _ => none }
      else none

/-- The steps that can be taken. -/
inductive Takes [DecidableEq ρ] (s : SharedPump ω κ ρ Req Resp) :
    SharedPumpStep ω κ ρ Req Resp → SharedPump ω κ ρ Req Resp → Prop
  | addCall {id call} :
      Takes s (.addCall id call) { s with calls := Function.update s.calls id (some call) }
  | asyncNext {worker next} (here : s.workers worker = .idle) :
      Takes s (.asyncNext worker next) (s.goto worker (.polled next))
  | returnShutdown {worker} (free : s.holder = none) :
      Takes s (.lock worker) (s.returnShutdown worker)
  | noEvent {worker} (free : s.holder = none) (unset : s.shutdownRequested = false) :
      Takes s (.lock worker) (s.goto worker .idle)
  | gotEvent {worker id call actions removes} (free : s.holder = none)
      (unset : s.shutdownRequested = false) :
      Takes s (.lock worker) { s.goto worker (.handling id actions removes) with
        holder := some worker
        calls := Function.update s.calls id (some call) }
  | callback {worker id requests responses status promise actions removes}
      (here : s.workers worker =
        .handling id (.callback requests responses status promise :: actions) removes) :
      Takes s (.act worker)
        { s.goto worker (.calling id actions removes) with callbacks := s.callbacks + 1 }
  | act {worker id action actions removes}
      (here : s.workers worker = .handling id (action :: actions) removes) :
      Takes s (.act worker) (s.goto worker (.handling id actions removes))
  | callbackReturns {worker id actions removes}
      (here : s.workers worker = .calling id actions removes) :
      Takes s (.callbackReturns worker) (s.goto worker (.handling id actions removes))
  | release {worker id removes} (here : s.workers worker = .handling id [] removes) :
      Takes s (.release worker) { s.goto worker .idle with
        holder := none
        calls := if removes then Function.update s.calls id none else s.calls }
  | requestedBefore {caller} (flag : s.shutdownRequested = true) :
      Takes s (.requestShutdown caller) (s.request caller .returned)
  | requestShutdown {caller} (free : s.holder = none) :
      Takes s (.requestShutdown caller)
        { s.request caller .requested with shutdownRequested := true }
  | cancelAll {caller} (here : s.requests caller = .requested) :
      Takes s (.cancelAll caller)
        { s.request caller .cancelled with calls := fun id => (s.calls id).map .cancel }
  | shutdownQueue {caller} (here : s.requests caller = .cancelled) :
      Takes s (.shutdownQueue caller) { s.request caller .queueShutdown with queueOpen := false }
  | joinNone {caller} (here : s.requests caller = .queueShutdown)
      (external : s.autoUpdate = none) : Takes s (.join caller) (s.request caller .joined)
  | join {caller worker} (here : s.requests caller = .queueShutdown)
      (updates : s.autoUpdate = some worker) (ended : s.workers worker = .stopped) :
      Takes s (.join caller) { s.request caller .joined with autoUpdate := none }
  | removeAllCalls {caller} (here : s.requests caller = .joined) :
      Takes s (.removeAllCalls caller) { s.request caller .returned with calls := fun _ => none }

theorem complete_cases [DecidableEq ρ] {s t : SharedPump ω κ ρ Req Resp} {worker : ω}
    {next : NextStatus κ Req Resp} (free : s.holder = none)
    (step : s.complete worker next = some t) : s.Takes (.lock worker) t := by
  unfold complete at step
  split at step
  · obtain rfl := Option.some.inj step
    exact .returnShutdown free
  · next unset =>
    rw [Bool.not_eq_true] at unset
    split at step
    · obtain rfl := Option.some.inj step
      exact .returnShutdown free
    · obtain rfl := Option.some.inj step
      exact .noEvent free unset
    · obtain rfl := Option.some.inj step
      exact .noEvent free unset
    · obtain ⟨call, _, rfl⟩ := Option.map_eq_some_iff.mp step
      exact .gotEvent free unset

theorem step_cases [DecidableEq ρ] {s t : SharedPump ω κ ρ Req Resp}
    {e : SharedPumpStep ω κ ρ Req Resp} (next : StepOf step s e t) : s.Takes e t := by
  unfold StepOf at next
  cases e with
  | addCall id call =>
      obtain rfl := Option.some.inj next
      exact .addCall
  | asyncNext worker arrived =>
      rw [step] at next
      split at next
      · next here =>
        obtain rfl := Option.some.inj next
        exact .asyncNext here
      · cases next
  | lock worker =>
      rw [step] at next
      split at next
      · next free => exact complete_cases free next
      · cases next
  | act worker =>
      rw [step] at next
      split at next
      · next here =>
        obtain rfl := Option.some.inj next
        exact .callback here
      · next here =>
        obtain rfl := Option.some.inj next
        exact .act here
      · cases next
  | callbackReturns worker =>
      rw [step] at next
      split at next
      · next here =>
        obtain rfl := Option.some.inj next
        exact .callbackReturns here
      · cases next
  | release worker =>
      rw [step] at next
      split at next
      · next here =>
        obtain rfl := Option.some.inj next
        exact .release here
      · cases next
  | requestShutdown caller =>
      rw [step] at next
      split at next
      · next free =>
        split at next
        · next flag =>
          obtain rfl := Option.some.inj next
          exact .requestedBefore flag
        · obtain rfl := Option.some.inj next
          exact .requestShutdown free
      · cases next
  | cancelAll caller =>
      obtain ⟨here, taken⟩ := Option.ite_none_right_eq_some.mp next
      obtain rfl := Option.some.inj taken
      exact .cancelAll here
  | shutdownQueue caller =>
      obtain ⟨here, taken⟩ := Option.ite_none_right_eq_some.mp next
      obtain rfl := Option.some.inj taken
      exact .shutdownQueue here
  | join caller =>
      obtain ⟨here, taken⟩ := Option.ite_none_right_eq_some.mp next
      split at taken
      · next external =>
        obtain rfl := Option.some.inj taken
        exact .joinNone here external
      · next worker updates =>
        split at taken
        · next ended =>
          obtain rfl := Option.some.inj taken
          exact .join here updates ended
        · cases taken
  | removeAllCalls caller =>
      obtain ⟨here, taken⟩ := Option.ite_none_right_eq_some.mp next
      obtain rfl := Option.some.inj taken
      exact .removeAllCalls here

end SharedPump

/-- The thread is in the block of `CompleteOne`, where it may run callbacks. -/
def WorkerPoint.inside : WorkerPoint κ Req Resp → Bool
  | .handling _ _ _ => true
  | .calling _ _ _ => true
  | _ => false

/-- The thread runs a user callback. -/
def WorkerPoint.inCallback : WorkerPoint κ Req Resp → Bool
  | .calling _ _ _ => true
  | _ => false

/-- The mutex is held by the thread that handles an event, its holder has found the flag
not set, and whoever got past the first block of `RequestShutdown` has found it set or set
it. -/
structure Guarded (s : SharedPump ω κ ρ Req Resp) : Prop where
  inside : ∀ worker, (s.workers worker).inside = true → s.holder = some worker
  holder : ∀ worker, s.holder = some worker → s.shutdownRequested = false
  requests : ∀ caller, s.requests caller ≠ .idle → s.shutdownRequested = true

namespace Guarded

variable {s t : SharedPump ω κ ρ Req Resp} {worker : ω} {caller : ρ}

theorem start (autoUpdate : Option ω) :
    Guarded ({ autoUpdate := autoUpdate } : SharedPump ω κ ρ Req Resp) :=
  ⟨fun _ h => by simp [WorkerPoint.inside] at h, fun _ h => by simp at h,
    fun _ h => absurd rfl h⟩

/-- A thread moves on inside of the block, or outside of it. -/
theorem goto [DecidableEq ω] (h : Guarded s) {point : WorkerPoint κ Req Resp}
    (stays : point.inside = true → s.holder = some worker) : Guarded (s.goto worker point) := by
  refine ⟨?_, h.holder, h.requests⟩
  intro other inside
  by_cases same : other = worker
  · subst same
    exact stays (by simpa [SharedPump.goto] using inside)
  · exact h.inside other (by simpa [SharedPump.goto, same] using inside)

theorem returnShutdown [DecidableEq ω] (h : Guarded s) : Guarded (s.returnShutdown worker) := by
  apply h.goto
  intro inside
  split at inside <;> simp [WorkerPoint.inside] at inside

/-- A call of `RequestShutdown` goes on with the flag set. -/
theorem request [DecidableEq ρ] (h : Guarded s) (flag : s.shutdownRequested = true)
    (point : RequestPoint) :
    Guarded (s.request caller point) :=
  ⟨h.inside, h.holder, fun _ _ => flag⟩

/-- The tracker is not looked at. -/
theorem congr (h : Guarded s) (holder : t.holder = s.holder)
    (flag : t.shutdownRequested = s.shutdownRequested) (workers : t.workers = s.workers)
    (requests : t.requests = s.requests) : Guarded t := by
  constructor
  · rw [holder, workers]
    exact h.inside
  · rw [holder, flag]
    exact h.holder
  · rw [flag, requests]
    exact h.requests

/-- A thread takes the mutex and begins to handle an event. -/
theorem gotEvent [DecidableEq ω] [DecidableEq κ] (h : Guarded s) (free : s.holder = none)
    (unset : s.shutdownRequested = false) (id : κ) (call : TrackedCall Req Resp)
    (actions : List (CallAction Req Resp)) (removes : Bool) :
    Guarded { s.goto worker (.handling id actions removes) with
      holder := some worker
      calls := Function.update s.calls id (some call) } := by
  refine ⟨?_, fun _ _ => unset, h.requests⟩
  intro other inside
  by_cases same : other = worker
  · rw [same]
  · have before := h.inside other (by simpa [SharedPump.goto, same] using inside)
    rw [free] at before
    cases before

/-- The holder of the mutex releases it. -/
theorem release [DecidableEq ω] (h : Guarded s) (holds : s.holder = some worker)
    (calls : κ → Option (TrackedCall Req Resp)) :
    Guarded { s.goto worker .idle with holder := none, calls := calls } := by
  refine ⟨?_, fun _ free => by simp at free, h.requests⟩
  intro other inside
  by_cases same : other = worker
  · subst same
    simp [SharedPump.goto, WorkerPoint.inside] at inside
  · have holds' := h.inside other (by simpa [SharedPump.goto, same] using inside)
    exact absurd (Option.some.inj (holds'.symm.trans holds)) same

/-- The flag is set while nobody holds the mutex. -/
theorem requestShutdown [DecidableEq ρ] (h : Guarded s) (free : s.holder = none) :
    Guarded { s.request caller .requested with shutdownRequested := true } := by
  refine ⟨h.inside, ?_, fun _ _ => rfl⟩
  intro worker holds
  have holds : s.holder = some worker := holds
  rw [free] at holds
  cases holds

/-- Whoever got past the first block of `RequestShutdown` finds the flag set. -/
theorem flag (h : Guarded s) {point : RequestPoint} (here : s.requests caller = point)
    (busy : point ≠ .idle) : s.shutdownRequested = true :=
  h.requests caller (here ▸ busy)

/-- Once the flag is set no thread is in the block. -/
theorem outside (h : Guarded s) (flag : s.shutdownRequested = true) (worker : ω) :
    (s.workers worker).inside = false := by
  cases inside : (s.workers worker).inside with
  | false => rfl
  | true =>
      have unset := h.holder worker (h.inside worker inside)
      rw [flag] at unset
      simp at unset

variable [DecidableEq ω] [DecidableEq κ] [DecidableEq ρ]

theorem step (h : Guarded s) {e : SharedPumpStep ω κ ρ Req Resp}
    (next : StepOf SharedPump.step s e t) : Guarded t := by
  cases SharedPump.step_cases next with
  | addCall => exact h.congr rfl rfl rfl rfl
  | asyncNext => exact h.goto (by simp [WorkerPoint.inside])
  | returnShutdown => exact h.returnShutdown
  | noEvent => exact h.goto (by simp [WorkerPoint.inside])
  | gotEvent free unset => exact h.gotEvent free unset _ _ _ _
  | callback here =>
      exact (h.goto fun _ => h.inside _ (by rw [here]; rfl)).congr rfl rfl rfl rfl
  | act here => exact h.goto fun _ => h.inside _ (by rw [here]; rfl)
  | callbackReturns here => exact h.goto fun _ => h.inside _ (by rw [here]; rfl)
  | release here => exact h.release (h.inside _ (by rw [here]; rfl)) _
  | requestedBefore flag => exact h.request flag .returned
  | requestShutdown free => exact h.requestShutdown free
  | cancelAll here | shutdownQueue here | join here | removeAllCalls here =>
      exact (h.request (h.flag here (by decide)) _).congr rfl rfl rfl rfl
  | joinNone here => exact h.request (h.flag here (by decide)) .joined

/-- Once the flag is set, it stays set and no callback is begun. -/
theorem closed (h : Guarded s) (flag : s.shutdownRequested = true)
    {e : SharedPumpStep ω κ ρ Req Resp} (next : StepOf SharedPump.step s e t) :
    t.shutdownRequested = true ∧ t.callbacks = s.callbacks := by
  cases SharedPump.step_cases next with
  | @callback worker _ _ _ _ _ _ _ here =>
      have outside := h.outside flag worker
      rw [here] at outside
      cases outside
  | requestShutdown => exact ⟨rfl, rfl⟩
  | _ => exact ⟨flag, rfl⟩

theorem run (h : Guarded s) {es : List (SharedPumpStep ω κ ρ Req Resp)}
    (run : Run (StepOf SharedPump.step) s es t) : Guarded t :=
  run.invariant h (fun h next => h.step next)

/-- Once the flag is set, no run begins a callback. -/
theorem run_closed (h : Guarded s) (flag : s.shutdownRequested = true)
    {es : List (SharedPumpStep ω κ ρ Req Resp)} (run : Run (StepOf SharedPump.step) s es t) :
    t.shutdownRequested = true ∧ t.callbacks = s.callbacks := by
  induction run with
  | nil s => exact ⟨flag, rfl⟩
  | cons next _ ih =>
      have kept := h.closed flag next
      have later := ih (h.step next) kept.1
      exact ⟨later.1, later.2.trans kept.2⟩

end Guarded

theorem inCallback_of_outside {point : WorkerPoint κ Req Resp} (h : point.inside = false) :
    point.inCallback = false := by
  cases point with
  | calling _ _ _ => simp [WorkerPoint.inside] at h
  | _ => rfl

section Quiet

variable [DecidableEq ω] [DecidableEq κ] [DecidableEq ρ]

/-- As soon as any call of `RequestShutdown` has returned, no callback is running, and none
runs from then on. -/
theorem returned_quiet {autoUpdate : Option ω} {es : List (SharedPumpStep ω κ ρ Req Resp)}
    {s : SharedPump ω κ ρ Req Resp}
    (run : Run (StepOf SharedPump.step) { autoUpdate := autoUpdate } es s) {caller : ρ}
    (returned : s.requests caller = .returned) :
    (∀ worker, (s.workers worker).inCallback = false) ∧
      ∀ fs t, Run (StepOf SharedPump.step) s fs t →
        t.callbacks = s.callbacks ∧ ∀ worker, (t.workers worker).inCallback = false := by
  have guarded := (Guarded.start autoUpdate).run run
  have flag := guarded.requests caller (by simp [returned])
  refine ⟨fun worker => inCallback_of_outside (guarded.outside flag worker), ?_⟩
  intro fs t rest
  have later := guarded.run_closed flag rest
  exact ⟨later.2, fun worker =>
    inCallback_of_outside ((guarded.run rest).outside later.1 worker)⟩

end Quiet

/-- A unary call that was started. -/
def startedCall : TrackedCall Unit Unit :=
  .unary { callStatus := .called, requests := [()], response := (), lastResponse := ()
           nextStep := (), callback := true, promise := .held }

/-- One callback has run when a shutdown begins, and a second request for it returns while
the first has yet to cancel the calls. -/
theorem returned_quiet_early :
    ∃ s : SharedPump Unit Unit Bool Unit Unit,
      s.callbacks = 1 ∧ s.requests true = .requested ∧ s.requests false = .returned ∧
      ∀ fs t, Run (StepOf SharedPump.step) s fs t → t.callbacks = 1 := by
  have run : ∃ s : SharedPump Unit Unit Bool Unit Unit,
      Run (StepOf SharedPump.step) { autoUpdate := none }
        [.addCall () startedCall, .asyncNext () (.gotEvent (some ()) .finish true () {}),
          .lock (), .act (), .callbackReturns (), .release (), .requestShutdown true,
          .requestShutdown false] s ∧
      s.callbacks = 1 ∧ s.requests true = .requested ∧ s.requests false = .returned :=
    ⟨_, .cons rfl (.cons rfl (.cons rfl (.cons rfl (.cons rfl (.cons rfl (.cons rfl (.cons rfl
      (.nil _)))))))), rfl, rfl, rfl⟩
  obtain ⟨s, run, callbacks, requested, returned⟩ := run
  refine ⟨s, callbacks, requested, returned, ?_⟩
  intro fs t rest
  rw [← callbacks]
  exact ((returned_quiet run returned).2 fs t rest).1

end SpotSdk.Client
