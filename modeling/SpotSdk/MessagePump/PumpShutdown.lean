import Mathlib.Logic.Function.Basic
import SpotSdk.MessagePump.CallRuns

/-!
# Starting calls while the pump shuts down

Callers create a call, add it to the tracker and start it, while another thread
requests the shutdown of the pump and a third handles completion events. Each
member function that locks is one step.
-/

namespace SpotSdk.Client

open SpotSdk.Foundations SpotSdk.Common

variable {ι Req Resp : Type*}

/-- Where a caller is in `InitiateAsyncCall`. -/
inductive CallerStep
  | idle
  | created
  | added
  | returned
  deriving DecidableEq, Repr

/-- A caller, with the call it made. The object is absent before it is created and
once it is deleted; the log holds what happened to the caller's promise. -/
structure Caller (Req Resp : Type*) where
  step : CallerStep := .idle
  call : Option (Call Unit Req Resp) := none
  tracked : Bool := false
  outstanding : Bool := false
  log : List (CallAction Req Resp) := []

/-- How far `RequestShutdown` has come. The first step sets the flag. -/
inductive ShutdownStep
  | running
  | requested
  | cancelled
  | queueShutdown
  | joined
  | removed
  deriving DecidableEq, Repr

/-- The thread that calls `CompleteOne`: in `AsyncNext`, with an event in hand, or
done because `CompleteOne` returned `Shutdown`. -/
inductive LoopStep (ι Resp : Type*)
  | polling
  | got (i : ι) (success : Bool) (message : Resp) (status : GrpcStatus)
  | stopped

/-- The pump and its callers. `panicked` is set when a checked precondition fails or
a deleted call is used. -/
structure Pump (ι Req Resp : Type*) where
  callers : ι → Caller Req Resp := fun _ => {}
  shutdown : ShutdownStep := .running
  loop : LoopStep ι Resp := .polling
  autoUpdate : Bool
  panicked : Bool := false

inductive PumpEvent (ι Req Resp : Type*)
  | create (i : ι)
  | refuse (i : ι) (status : Status)
  | addCall (i : ι)
  | start (i : ι) (request : Req)
  | requestShutdown
  | cancelAll
  | shutdownQueue
  | join
  | removeAllCalls
  | asyncNext (i : ι) (success : Bool) (message : Resp) (status : GrpcStatus)
  | completeOne

/-- `m_shutdown_requested`. -/
def ShutdownStep.isRequested : ShutdownStep → Bool
  | .running => false
  | _ => true

/-- `CancelAll` is still to come, if the pump is shut down at all. -/
def ShutdownStep.beforeCancelAll : ShutdownStep → Bool
  | .running => true
  | .requested => true
  | _ => false

/-- gRPC still takes operations. -/
def ShutdownStep.queueOpen : ShutdownStep → Bool
  | .running => true
  | .requested => true
  | .cancelled => true
  | _ => false

def LoopStep.isPolling : LoopStep ι Resp → Bool
  | .polling => true
  | _ => false

def LoopStep.isStopped : LoopStep ι Resp → Bool
  | .stopped => true
  | _ => false

def LoopStep.holds [DecidableEq ι] (i : ι) : LoopStep ι Resp → Bool
  | .got j _ _ _ => i = j
  | _ => false

namespace Caller

/-- `CreateUnaryCall`, and what `InitiateAsyncCall` does when it returns null. -/
def create [Inhabited Resp] (requested : Bool) (caller : Caller Req Resp) :
    Caller Req Resp :=
  if requested then
    { caller with
      step := .returned
      log := caller.log ++ [.setValue .held
        ⟨RPCErrorCode.clientCancelledOperationError.code, "MessagePump has shut down"⟩] }
  else { caller with step := .created, call := some UnaryCall.create }

/-- The request processors fail: the promise gets their status, the call is dropped. -/
def refuse (status : Status) (caller : Caller Req Resp) : Caller Req Resp :=
  { caller with
    step := .returned, call := none, log := caller.log ++ [.setValue .held status] }

/-- `OutstandingCallTracker::AddCall`, which takes the call over. -/
def addCall (caller : Caller Req Resp) : Caller Req Resp :=
  { caller with step := .added, tracked := true }

/-- `UnaryCall::Start` on the pointer that was kept; absent when it panics. -/
def start (queueOpen : Bool) (request : Req) (caller : Caller Req Resp) :
    Option (Caller Req Resp) :=
  (caller.call.bind (UnaryCall.start · request)).map fun begun =>
    { caller with
      step := .returned, call := some begun.1, outstanding := queueOpen,
      log := caller.log ++ begun.2 }

/-- `Cancel` of a tracked call. -/
def cancel (caller : Caller Req Resp) : Caller Req Resp :=
  match caller.tracked, caller.call with
  | true, some call =>
      { caller with call := some call.cancel.1, log := caller.log ++ call.cancel.2 }
  | _, _ => caller

/-- The tracker lets go of the call, which deletes it. -/
def remove (caller : Caller Req Resp) : Caller Req Resp :=
  if caller.tracked then { caller with call := none, tracked := false } else caller

/-- The event of the call: `OnCompletionQueueEvent`, then `RemoveCall` if it is
complete. Absent when the call was deleted. -/
def complete (success : Bool) (message : Resp) (status : GrpcStatus)
    (caller : Caller Req Resp) : Option (Caller Req Resp) :=
  caller.call.map fun call =>
    let handled :=
      UnaryCall.onCompletionQueueEvent (call.fill .finish success message status) success
    let after :=
      { caller with call := some handled.1, log := caller.log ++ handled.2.1 }
    if handled.2.2 then after.remove else after

end Caller

namespace Pump

variable [DecidableEq ι]

def setCaller (s : Pump ι Req Resp) (i : ι) (caller : Caller Req Resp) :
    Pump ι Req Resp :=
  { s with callers := Function.update s.callers i caller }

/-- The caller's next state, or the end of the program. -/
def setOrPanic (s : Pump ι Req Resp) (i : ι) (caller : Option (Caller Req Resp)) :
    Pump ι Req Resp :=
  caller.elim { s with panicked := true } (s.setCaller i)

/-- `CompleteOne` after `AsyncNext`, under the shutdown lock. -/
def completeOne (s : Pump ι Req Resp) : Option (Pump ι Req Resp) :=
  match s.loop with
  | .stopped => none
  | .polling =>
      some { s with loop := if s.shutdown.isRequested then .stopped else .polling }
  | .got i success message status =>
      if s.shutdown.isRequested then some { s with loop := .stopped }
      else some ({ s with loop := .polling }.setOrPanic i
        ((s.callers i).complete success message status))

/-- One step of one of the threads. A later `RequestShutdown` returns early. -/
def act [Inhabited Resp] (s : Pump ι Req Resp) :
    PumpEvent ι Req Resp → Option (Pump ι Req Resp)
  | .create i =>
      if (s.callers i).step = .idle then
        some (s.setCaller i ((s.callers i).create s.shutdown.isRequested))
      else none
  | .refuse i status =>
      if (s.callers i).step = .created ∧ status.ok = false then
        some (s.setCaller i ((s.callers i).refuse status))
      else none
  | .addCall i =>
      if (s.callers i).step = .created then some (s.setCaller i (s.callers i).addCall)
      else none
  | .start i request =>
      if (s.callers i).step = .added then
        some (s.setOrPanic i ((s.callers i).start s.shutdown.queueOpen request))
      else none
  | .requestShutdown =>
      some { s with
        shutdown := if s.shutdown.isRequested then s.shutdown else .requested }
  | .cancelAll =>
      if s.shutdown = .requested then
        some { s with shutdown := .cancelled, callers := fun i => (s.callers i).cancel }
      else none
  | .shutdownQueue =>
      if s.shutdown = .cancelled then some { s with shutdown := .queueShutdown } else none
  | .join =>
      if s.shutdown = .queueShutdown ∧ (s.autoUpdate = true → s.loop.isStopped = true) then
        some { s with shutdown := .joined }
      else none
  | .removeAllCalls =>
      if s.shutdown = .joined then
        some { s with shutdown := .removed, callers := fun i => (s.callers i).remove }
      else none
  | .asyncNext i success message status =>
      if s.loop.isPolling = true ∧ (s.callers i).outstanding = true then
        some { s.setCaller i { s.callers i with outstanding := false } with
          loop := .got i success message status }
      else none
  | .completeOne => s.completeOne

/-- Nothing happens after the program has ended. -/
def step [Inhabited Resp] (s : Pump ι Req Resp) (e : PumpEvent ι Req Resp) :
    Option (Pump ι Req Resp) :=
  if s.panicked then none else s.act e

end Pump

/-! ## What callers are promised -/

/-- Every promise is used at most once, as its caller's, and exactly once when the
caller has returned and either its event was handled or `CancelAll` has run. -/
structure PumpCorrect [DecidableEq ι] (s : Pump ι Req Resp) : Prop where
  running : s.panicked = false
  uses : ∀ i, promiseUses (s.callers i).log = [] ∨ promiseUses (s.callers i).log = [.held]
  valued : ∀ i, (s.callers i).step = .returned →
    (s.shutdown = .running → (s.callers i).outstanding = false ∧ s.loop.holds i = false) →
    s.shutdown ≠ .requested → promiseUses (s.callers i).log = [.held]

/-- `CancelAll` finds no call that was added and not yet started, and no call is
added after it. -/
def CancelsStarted (s : Pump ι Req Resp) : PumpEvent ι Req Resp → Prop
  | .cancelAll => ∀ i, (s.callers i).step ≠ .added
  | .addCall _ => s.shutdown.beforeCancelAll = true
  | _ => True

/-- Where a caller and its call stand. `held` says that the completion loop has the
event of the call in hand. -/
inductive CallerInv [Inhabited Resp] (shutdown : ShutdownStep) (held : Bool)
    (c : Caller Req Resp) : Prop
  | idle (step : c.step = .idle) (call : c.call = none) (tracked : c.tracked = false)
      (quiet : c.outstanding = false ∧ held = false) (uses : promiseUses c.log = [])
  | created (step : c.step = .created) (call : c.call = some UnaryCall.create)
      (tracked : c.tracked = false) (quiet : c.outstanding = false ∧ held = false)
      (uses : promiseUses c.log = [])
  | added (step : c.step = .added) (call : c.call = some UnaryCall.create)
      (tracked : c.tracked = true) (quiet : c.outstanding = false ∧ held = false)
      (before : shutdown.beforeCancelAll = true) (uses : promiseUses c.log = [])
  | pending {call} (step : c.step = .returned) (hcall : c.call = some call)
      (status : call.callStatus = .called) (promise : call.promise = .held)
      (tracked : c.tracked = true) (before : shutdown.beforeCancelAll = true)
      (event : shutdown = .running → c.outstanding = !held) (uses : promiseUses c.log = [])
  | valued (step : c.step = .returned)
      (quiet : shutdown = .running → c.call = none ∧ c.outstanding = false ∧ held = false)
      (call : ∀ call, c.call = some call → call.callStatus = .cancelled)
      (uses : promiseUses c.log = [.held])

theorem promiseUses_setValue {log : List (CallAction Req Resp)} (uses : promiseUses log = [])
    (status : Status) : promiseUses (log ++ [.setValue .held status]) = [.held] := by
  rw [promiseUses_append, uses]
  rfl

theorem Caller.cancel_of_untracked {c : Caller Req Resp} (h : c.tracked = false) :
    c.cancel = c := by
  simp [Caller.cancel, h]

theorem Caller.cancel_of_none {c : Caller Req Resp} (h : c.call = none) : c.cancel = c := by
  simp [Caller.cancel, h]

theorem Caller.cancel_of_tracked {c : Caller Req Resp} (h : c.tracked = true)
    {call : Call Unit Req Resp} (hcall : c.call = some call) :
    c.cancel = { c with call := some call.cancel.1, log := c.log ++ call.cancel.2 } := by
  simp [Caller.cancel, h, hcall]

theorem Caller.remove_of_untracked {c : Caller Req Resp} (h : c.tracked = false) :
    c.remove = c := by
  simp [Caller.remove, h]

@[simp] theorem Caller.remove_log (c : Caller Req Resp) : c.remove.log = c.log := by
  unfold Caller.remove
  split <;> rfl

@[simp] theorem Caller.remove_step (c : Caller Req Resp) : c.remove.step = c.step := by
  unfold Caller.remove
  split <;> rfl

section Callers

variable [Inhabited Resp] {shutdown shutdown' : ShutdownStep} {held : Bool}
  {c : Caller Req Resp}

/-- What a caller at each step of `InitiateAsyncCall` holds. -/
theorem CallerInv.of_idle (inv : CallerInv shutdown held c) (idle : c.step = .idle) :
    c.call = none ∧ c.tracked = false ∧ (c.outstanding = false ∧ held = false) ∧
      promiseUses c.log = [] := by
  cases inv with
  | idle _ call tracked quiet uses => exact ⟨call, tracked, quiet, uses⟩
  | created step => cases step.symm.trans idle
  | added step => cases step.symm.trans idle
  | pending step => cases step.symm.trans idle
  | valued step => cases step.symm.trans idle

theorem CallerInv.of_created (inv : CallerInv shutdown held c)
    (created : c.step = .created) :
    c.call = some UnaryCall.create ∧ c.tracked = false ∧
      (c.outstanding = false ∧ held = false) ∧ promiseUses c.log = [] := by
  cases inv with
  | created _ call tracked quiet uses => exact ⟨call, tracked, quiet, uses⟩
  | idle step => cases step.symm.trans created
  | added step => cases step.symm.trans created
  | pending step => cases step.symm.trans created
  | valued step => cases step.symm.trans created

theorem CallerInv.of_added (inv : CallerInv shutdown held c) (added : c.step = .added) :
    c.call = some UnaryCall.create ∧ c.tracked = true ∧
      (c.outstanding = false ∧ held = false) ∧ shutdown.beforeCancelAll = true ∧
      promiseUses c.log = [] := by
  cases inv with
  | added _ call tracked quiet before uses => exact ⟨call, tracked, quiet, before, uses⟩
  | idle step => cases step.symm.trans added
  | created step => cases step.symm.trans added
  | pending step => cases step.symm.trans added
  | valued step => cases step.symm.trans added

theorem CallerInv.create (inv : CallerInv shutdown held c) (idle : c.step = .idle) :
    CallerInv shutdown held (c.create shutdown.isRequested) := by
  obtain ⟨call, tracked, quiet, uses⟩ := inv.of_idle idle
  unfold Caller.create
  cases h : shutdown.isRequested with
  | false => exact .created rfl rfl tracked quiet uses
  | true =>
      refine .valued rfl ?_ ?_ (promiseUses_setValue uses _)
      · rintro rfl
        cases h
      · intro object some
        cases call.symm.trans some

theorem CallerInv.refuse (inv : CallerInv shutdown held c) (created : c.step = .created)
    (status : Status) : CallerInv shutdown held (c.refuse status) := by
  obtain ⟨-, -, quiet, uses⟩ := inv.of_created created
  refine .valued rfl ?_ ?_ (promiseUses_setValue uses _)
  · intro _
    exact ⟨rfl, quiet⟩
  · intro object some
    cases some

theorem CallerInv.addCall (inv : CallerInv shutdown held c) (created : c.step = .created)
    (before : shutdown.beforeCancelAll = true) : CallerInv shutdown held c.addCall := by
  obtain ⟨call, -, quiet, uses⟩ := inv.of_created created
  exact .added rfl call rfl quiet before uses

/-- A call that is added is started while the pump still takes operations. -/
theorem CallerInv.start (inv : CallerInv shutdown held c) (added : c.step = .added)
    (request : Req) :
    ∃ c', c.start shutdown.queueOpen request = some c' ∧ CallerInv shutdown held c' := by
  obtain ⟨call, tracked, quiet, before, uses⟩ := inv.of_added added
  refine ⟨{ c with
    step := .returned
    call := some (UnaryCall.create.begin [request] .finish ()).1
    outstanding := shutdown.queueOpen
    log := c.log ++ [.issue .finish] }, ?_, ?_⟩
  · simp [Caller.start, call, UnaryCall.start, UnaryCall.create, Call.create, Call.begin]
  · refine .pending rfl rfl rfl rfl tracked before ?_ ?_
    · rintro rfl
      rw [quiet.2]
      rfl
    · rw [promiseUses_append, uses]
      rfl

theorem CallerInv.requestShutdown (inv : CallerInv shutdown held c) :
    CallerInv (if shutdown.isRequested then shutdown else .requested) held c := by
  cases h : shutdown.isRequested with
  | true => exact inv
  | false =>
      cases inv with
      | idle step call tracked quiet uses => exact .idle step call tracked quiet uses
      | created step call tracked quiet uses => exact .created step call tracked quiet uses
      | added step call tracked quiet before uses =>
          exact .added step call tracked quiet rfl uses
      | pending step hcall status promise tracked before event uses =>
          exact .pending step hcall status promise tracked rfl (by simp) uses
      | valued step quiet call uses => exact .valued step (by simp) call uses

/-- `CancelAll` gives a value to every started call that has none. -/
theorem CallerInv.cancel (inv : CallerInv .requested held c) (started : c.step ≠ .added) :
    CallerInv .cancelled held c.cancel := by
  cases inv with
  | idle step call tracked quiet uses =>
      rw [Caller.cancel_of_untracked tracked]
      exact .idle step call tracked quiet uses
  | created step call tracked quiet uses =>
      rw [Caller.cancel_of_untracked tracked]
      exact .created step call tracked quiet uses
  | added step => exact absurd step started
  | @pending call step hcall status promise tracked before event uses =>
      obtain ⟨status', uses'⟩ := call.cancel_called status
      rw [Caller.cancel_of_tracked tracked hcall]
      refine .valued step (by simp) ?_ ?_
      · intro object some
        cases some
        exact status'
      · rw [promiseUses_append, uses, uses', promise]
        rfl
  | valued step quiet call uses =>
      cases hcall : c.call with
      | none =>
          rw [Caller.cancel_of_none hcall]
          exact .valued step (by simp) call uses
      | some object =>
          obtain ⟨status', actions⟩ := object.cancel_ended (.inl (call object hcall))
          cases tracked : c.tracked with
          | false =>
              rw [Caller.cancel_of_untracked tracked]
              exact .valued step (by simp) call uses
          | true =>
              rw [Caller.cancel_of_tracked tracked hcall, actions, List.append_nil]
              refine .valued step (by simp) ?_ uses
              intro cancelled some
              cases some
              exact status'.trans (call object hcall)

/-- After `CancelAll` the rest of the shutdown changes nothing for a caller. -/
theorem CallerInv.later (inv : CallerInv shutdown held c)
    (done : shutdown.beforeCancelAll = false) (done' : shutdown'.beforeCancelAll = false) :
    CallerInv shutdown' held c := by
  cases inv with
  | idle step call tracked quiet uses => exact .idle step call tracked quiet uses
  | created step call tracked quiet uses => exact .created step call tracked quiet uses
  | added _ _ _ _ before => cases before.symm.trans done
  | pending _ _ _ _ _ before => cases before.symm.trans done
  | valued step quiet call uses =>
      refine .valued step ?_ call uses
      rintro rfl
      cases done'

theorem CallerInv.remove (inv : CallerInv shutdown held c)
    (done : shutdown.beforeCancelAll = false) : CallerInv shutdown held c.remove := by
  cases inv with
  | idle step call tracked quiet uses =>
      rw [Caller.remove_of_untracked tracked]
      exact .idle step call tracked quiet uses
  | created step call tracked quiet uses =>
      rw [Caller.remove_of_untracked tracked]
      exact .created step call tracked quiet uses
  | added _ _ _ _ before => cases before.symm.trans done
  | pending _ _ _ _ _ before => cases before.symm.trans done
  | valued step quiet call uses =>
      unfold Caller.remove
      cases c.tracked with
      | false => exact .valued step quiet call uses
      | true =>
          refine .valued step ?_ (by simp) uses
          intro running
          exact ⟨rfl, (quiet running).2⟩

/-- The event of a call that waits for it, in a pump that runs, ends the call. -/
theorem CallerInv.complete (inv : CallerInv .running true c) (success : Bool)
    (message : Resp) (status : GrpcStatus) :
    ∃ c', c.complete success message status = some c' ∧ CallerInv .running false c' := by
  cases inv with
  | @pending call step hcall callStatus promise tracked before event uses =>
      refine ⟨{ c with
        call := none, tracked := false
        log := c.log ++ [.callback call.requests [message] status call.promise] }, ?_, ?_⟩
      · simp [Caller.complete, hcall, UnaryCall.onCompletionQueueEvent, Call.fill,
          callStatus, Call.complete, Caller.remove, tracked]
      · refine .valued step ?_ (by simp) ?_
        · intro running
          exact ⟨rfl, event running, rfl⟩
        · rw [promiseUses_append, uses, promise]
          rfl
  | idle _ _ _ quiet => cases quiet.2
  | created _ _ _ quiet => cases quiet.2
  | added _ _ _ quiet => cases quiet.2
  | valued _ quiet => cases (quiet rfl).2.2

/-- An event that arrives moves from gRPC to the loop. -/
theorem CallerInv.asyncNext (inv : CallerInv shutdown false c) (out : c.outstanding = true) :
    CallerInv shutdown true { c with outstanding := false } := by
  cases inv with
  | idle _ _ _ quiet => cases quiet.1.symm.trans out
  | created _ _ _ quiet => cases quiet.1.symm.trans out
  | added _ _ _ quiet => cases quiet.1.symm.trans out
  | pending step hcall status promise tracked before event uses =>
      exact .pending step hcall status promise tracked before (fun _ => rfl) uses
  | valued step quiet call uses =>
      refine .valued step ?_ call uses
      intro running
      cases (quiet running).2.1.symm.trans out

/-- Once the flag is set, an event in hand is dropped without an effect. -/
theorem CallerInv.drop (inv : CallerInv shutdown held c)
    (requested : shutdown.isRequested = true) : CallerInv shutdown false c := by
  have flagged : shutdown ≠ .running := by
    rintro rfl
    cases requested
  cases inv with
  | idle step call tracked quiet uses => exact .idle step call tracked ⟨quiet.1, rfl⟩ uses
  | created step call tracked quiet uses =>
      exact .created step call tracked ⟨quiet.1, rfl⟩ uses
  | added step call tracked quiet before uses =>
      exact .added step call tracked ⟨quiet.1, rfl⟩ before uses
  | pending step hcall status promise tracked before event uses =>
      exact .pending step hcall status promise tracked before (absurd · flagged) uses
  | valued step quiet call uses => exact .valued step (absurd · flagged) call uses

end Callers

/-! ## The pump -/

theorem ShutdownStep.eq_running {shutdown : ShutdownStep}
    (h : shutdown.isRequested = false) : shutdown = .running := by
  cases shutdown <;> first | rfl | cases h

theorem ShutdownStep.isRequested_of_late {shutdown : ShutdownStep}
    (h : shutdown.beforeCancelAll = false) : shutdown.isRequested = true := by
  cases shutdown <;> first | rfl | cases h

theorem LoopStep.holds_of_isPolling [DecidableEq ι] {loop : LoopStep ι Resp}
    (h : loop.isPolling = true) (i : ι) : loop.holds i = false := by
  cases loop with
  | polling => rfl
  | got => cases h
  | stopped => cases h

section Pumps

variable [DecidableEq ι] [Inhabited Resp] {s t : Pump ι Req Resp}
  {e : PumpEvent ι Req Resp} {i : ι}

/-- What a step can do, with the condition under which it does. -/
inductive Pump.Acts (s : Pump ι Req Resp) : PumpEvent ι Req Resp → Pump ι Req Resp → Prop
  | create {i : ι} (idle : (s.callers i).step = .idle) :
      Acts s (.create i) (s.setCaller i ((s.callers i).create s.shutdown.isRequested))
  | refuse {i : ι} {status : Status} (created : (s.callers i).step = .created) :
      Acts s (.refuse i status) (s.setCaller i ((s.callers i).refuse status))
  | addCall {i : ι} (created : (s.callers i).step = .created) :
      Acts s (.addCall i) (s.setCaller i (s.callers i).addCall)
  | start {i : ι} {request : Req} (added : (s.callers i).step = .added) :
      Acts s (.start i request)
        (s.setOrPanic i ((s.callers i).start s.shutdown.queueOpen request))
  | requestShutdown :
      Acts s .requestShutdown { s with
        shutdown := if s.shutdown.isRequested then s.shutdown else .requested }
  | cancelAll (requested : s.shutdown = .requested) :
      Acts s .cancelAll { s with
        shutdown := .cancelled, callers := fun i => (s.callers i).cancel }
  | shutdownQueue (cancelled : s.shutdown = .cancelled) :
      Acts s .shutdownQueue { s with shutdown := .queueShutdown }
  | join (queueShutdown : s.shutdown = .queueShutdown) :
      Acts s .join { s with shutdown := .joined }
  | removeAllCalls (joined : s.shutdown = .joined) :
      Acts s .removeAllCalls { s with
        shutdown := .removed, callers := fun i => (s.callers i).remove }
  | asyncNext {i : ι} {success : Bool} {message : Resp} {status : GrpcStatus}
      (polling : s.loop.isPolling = true)
      (out : (s.callers i).outstanding = true) :
      Acts s (.asyncNext i success message status)
        { s.setCaller i { s.callers i with outstanding := false } with
          loop := .got i success message status }
  | completeOne {t : Pump ι Req Resp} (completes : s.completeOne = some t) : Acts s .completeOne t

theorem Pump.step_cases (step : StepOf Pump.step s e t) : s.Acts e t := by
  simp only [StepOf, Pump.step, Option.ite_none_left_eq_some] at step
  replace step := step.2
  cases e with
  | requestShutdown =>
      obtain rfl := Option.some.inj step
      exact .requestShutdown
  | completeOne => exact .completeOne step
  | _ =>
      simp only [Pump.act, Option.ite_none_right_eq_some, Option.some.injEq] at step
      obtain ⟨cond, rfl⟩ := step
      constructor <;> simp_all

structure PumpInv (s : Pump ι Req Resp) : Prop where
  running : s.panicked = false
  callers : ∀ i, CallerInv s.shutdown (s.loop.holds i) (s.callers i)

/-- A step of one caller, which leaves the other callers as they are. -/
theorem PumpInv.setCaller (inv : PumpInv s) {c : Caller Req Resp}
    (next : CallerInv s.shutdown (s.loop.holds i) c) : PumpInv (s.setCaller i c) := by
  refine ⟨inv.running, fun j => ?_⟩
  by_cases h : j = i
  · subst h
    simpa [Pump.setCaller] using next
  · simpa [Pump.setCaller, h] using inv.callers j

theorem PumpInv.asyncNext (inv : PumpInv s) (polling : s.loop.isPolling = true)
    (out : (s.callers i).outstanding = true) (success : Bool) (message : Resp)
    (status : GrpcStatus) :
    PumpInv { s.setCaller i { s.callers i with outstanding := false } with
      loop := .got i success message status } := by
  refine ⟨inv.running, fun j => ?_⟩
  have old := inv.callers j
  rw [LoopStep.holds_of_isPolling polling] at old
  by_cases h : j = i
  · subst h
    simpa [Pump.setCaller, LoopStep.holds] using old.asyncNext out
  · simpa [Pump.setCaller, LoopStep.holds, h] using old

/-- Once the flag is set, the loop stops and no call notices. -/
theorem PumpInv.stop (inv : PumpInv s) (requested : s.shutdown.isRequested = true) :
    PumpInv { s with loop := .stopped } :=
  ⟨inv.running, fun j => (inv.callers j).drop requested⟩

theorem PumpInv.dispatch (inv : PumpInv s) (open_ : s.shutdown.isRequested = false)
    {success : Bool} {message : Resp} {status : GrpcStatus}
    (got : s.loop = .got i success message status) :
    PumpInv ({ s with loop := .polling }.setOrPanic i
      ((s.callers i).complete success message status)) := by
  have running := ShutdownStep.eq_running open_
  have mine := inv.callers i
  rw [running, got] at mine
  simp only [LoopStep.holds, decide_true] at mine
  obtain ⟨c, complete, next⟩ := mine.complete success message status
  rw [complete]
  refine ⟨inv.running, fun j => ?_⟩
  by_cases h : j = i
  · subst h
    simpa [Pump.setOrPanic, Pump.setCaller, running, LoopStep.holds] using next
  · have old := inv.callers j
    rw [got] at old
    simpa [Pump.setOrPanic, Pump.setCaller, LoopStep.holds, h, Ne.symm h] using old

theorem PumpInv.completeOne (inv : PumpInv s) (h : s.completeOne = some t) : PumpInv t := by
  unfold Pump.completeOne at h
  cases loop : s.loop with
  | stopped => simp [loop] at h
  | polling =>
      rw [loop] at h
      obtain rfl := Option.some.inj h
      cases requested : s.shutdown.isRequested with
      | true => exact inv.stop requested
      | false =>
          refine ⟨inv.running, fun j => ?_⟩
          have old := inv.callers j
          rw [loop] at old
          exact old
  | got i success message status =>
      rw [loop] at h
      cases requested : s.shutdown.isRequested with
      | true =>
          simp only [requested, if_true] at h
          obtain rfl := Option.some.inj h
          exact inv.stop requested
      | false =>
          simp only [requested, Bool.false_eq_true, if_false] at h
          obtain rfl := Option.some.inj h
          exact inv.dispatch requested loop

/-- Every step in a good order keeps the invariant. -/
theorem PumpInv.step (inv : PumpInv s)
    (step : Guard (StepOf Pump.step) CancelsStarted s e t) : PumpInv t := by
  obtain ⟨step, guarded⟩ := step
  cases Pump.step_cases step with
  | create idle => exact inv.setCaller ((inv.callers _).create idle)
  | refuse created => exact inv.setCaller ((inv.callers _).refuse created _)
  | addCall created => exact inv.setCaller ((inv.callers _).addCall created guarded)
  | @start i request added =>
      obtain ⟨c, start, next⟩ := (inv.callers i).start added request
      rw [start]
      exact inv.setCaller next
  | requestShutdown => exact ⟨inv.running, fun j => (inv.callers j).requestShutdown⟩
  | cancelAll requested =>
      refine ⟨inv.running, fun j => ?_⟩
      have old := inv.callers j
      rw [requested] at old
      exact old.cancel (guarded j)
  | shutdownQueue cancelled =>
      exact ⟨inv.running, fun j => (inv.callers j).later (by rw [cancelled]; rfl) rfl⟩
  | join queueShutdown =>
      exact ⟨inv.running, fun j => (inv.callers j).later (by rw [queueShutdown]; rfl) rfl⟩
  | removeAllCalls joined =>
      refine ⟨inv.running, fun j => ?_⟩
      exact ((inv.callers j).later (by rw [joined]; rfl) rfl).remove rfl
  | asyncNext polling out => exact inv.asyncNext polling out _ _ _
  | completeOne completes => exact inv.completeOne completes

theorem PumpInv.correct (inv : PumpInv s) : PumpCorrect s where
  running := inv.running
  uses i := by
    cases inv.callers i with
    | idle _ _ _ _ uses => exact .inl uses
    | created _ _ _ _ uses => exact .inl uses
    | added _ _ _ _ _ uses => exact .inl uses
    | pending _ _ _ _ _ _ _ uses => exact .inl uses
    | valued _ _ _ uses => exact .inr uses
  valued i returned settled notRequested := by
    cases inv.callers i with
    | idle step => cases step.symm.trans returned
    | created step => cases step.symm.trans returned
    | added step => cases step.symm.trans returned
    | pending _ _ _ _ _ before event _ =>
        cases shutdown : s.shutdown with
        | running =>
            obtain ⟨quiet, released⟩ := settled shutdown
            have waits := event shutdown
            rw [quiet, released] at waits
            cases waits
        | requested => exact absurd shutdown notRequested
        | _ => rw [shutdown] at before; cases before
    | valued _ _ _ uses => exact uses

/-- A pump that has just been built, with callers that have not called it yet. -/
def Pump.new (autoUpdate : Bool) : Pump ι Req Resp :=
  { autoUpdate := autoUpdate }

theorem new_pumpInv (autoUpdate : Bool) : PumpInv (Pump.new autoUpdate : Pump ι Req Resp) :=
  ⟨rfl, fun _ => .idle rfl rfl rfl ⟨rfl, rfl⟩ rfl⟩

/-- In every run in which `CancelAll` finds no call between `AddCall` and `Start`, and
comes after every `AddCall`, the pump keeps what callers are promised. -/
theorem pumpCorrect_of_cancelsStarted (autoUpdate : Bool)
    {events : List (PumpEvent ι Req Resp)}
    (run : Run (Guard (StepOf Pump.step) CancelsStarted) (Pump.new autoUpdate) events s) :
    PumpCorrect s :=
  (run.invariant (new_pumpInv autoUpdate) PumpInv.step).correct

/-- A call that is under way when the pump shuts down gets its value from
`CancelAll`. -/
theorem pumpCorrect_cancelled :
    ∃ s : Pump Unit Unit Unit, s.shutdown = .removed ∧
      (s.callers ()).step = .returned ∧ PumpCorrect s := by
  have run : ∃ s : Pump Unit Unit Unit, Run (Guard (StepOf Pump.step) CancelsStarted)
      (Pump.new true)
      [.create (), .addCall (), .start () (), .requestShutdown, .cancelAll,
        .shutdownQueue, .completeOne, .join, .removeAllCalls] s ∧
      s.shutdown = .removed ∧ (s.callers ()).step = .returned :=
    ⟨_, .cons ⟨rfl, trivial⟩ (.cons ⟨rfl, rfl⟩ (.cons ⟨rfl, trivial⟩
      (.cons ⟨rfl, trivial⟩ (.cons ⟨rfl, fun _ => nofun⟩ (.cons ⟨rfl, trivial⟩
        (.cons ⟨rfl, trivial⟩ (.cons ⟨rfl, trivial⟩ (.cons ⟨rfl, trivial⟩
          (.nil _))))))))), rfl, rfl⟩
  obtain ⟨s, run, removed, returned⟩ := run
  exact ⟨s, removed, returned, pumpCorrect_of_cancelsStarted true run⟩

/-! ## The two windows -/

/-- A caller whose call was added after `CancelAll` and whose promise is not used. -/
structure Dropped (s : Pump ι Req Resp) (i : ι) : Prop where
  late : s.shutdown.beforeCancelAll = false
  unused : promiseUses (s.callers i).log = []
  step : (s.callers i).step = .added ∨ (s.callers i).step = .returned

omit [Inhabited Resp] in
theorem Dropped.setCaller (dropped : Dropped s i) {j : ι} {c : Caller Req Resp}
    (next : j = i → promiseUses c.log = [] ∧ (c.step = .added ∨ c.step = .returned)) :
    Dropped (s.setCaller j c) i := by
  by_cases h : j = i
  · subst h
    obtain ⟨unused, step⟩ := next rfl
    exact ⟨dropped.late, by simpa [Pump.setCaller] using unused,
      by simpa [Pump.setCaller] using step⟩
  · exact ⟨dropped.late, by simpa [Pump.setCaller, Ne.symm h] using dropped.unused,
      by simpa [Pump.setCaller, Ne.symm h] using dropped.step⟩

omit [Inhabited Resp] in
/-- `Start` itself does not use the promise. -/
theorem Dropped.start (dropped : Dropped s i) (j : ι) (request : Req) :
    Dropped (s.setOrPanic j ((s.callers j).start s.shutdown.queueOpen request)) i := by
  cases h : (s.callers j).start s.shutdown.queueOpen request with
  | none => exact ⟨dropped.late, dropped.unused, dropped.step⟩
  | some c =>
      refine dropped.setCaller ?_
      rintro rfl
      obtain ⟨begun, hbegun, rfl⟩ := Option.map_eq_some_iff.mp h
      obtain ⟨call, -, start⟩ := Option.bind_eq_some_iff.mp hbegun
      simp only [UnaryCall.start] at start
      split at start
      · cases start
      · obtain rfl := Option.some.inj start
        refine ⟨?_, .inr rfl⟩
        rw [promiseUses_append, dropped.unused]
        rfl

omit [DecidableEq ι] [Inhabited Resp] in
theorem Dropped.ne_idle (dropped : Dropped s i) : (s.callers i).step ≠ .idle := by
  cases dropped.step with
  | inl h => simp [h]
  | inr h => simp [h]

omit [DecidableEq ι] [Inhabited Resp] in
theorem Dropped.ne_created (dropped : Dropped s i) : (s.callers i).step ≠ .created := by
  cases dropped.step with
  | inl h => simp [h]
  | inr h => simp [h]

/-- No step of the pump gives the promise of a dropped call a value. -/
theorem Dropped.next (dropped : Dropped s i) (step : StepOf Pump.step s e t) :
    Dropped t i := by
  have requested := ShutdownStep.isRequested_of_late dropped.late
  cases Pump.step_cases step with
  | create idle =>
      exact dropped.setCaller fun same => absurd (same ▸ idle) dropped.ne_idle
  | refuse created =>
      exact dropped.setCaller fun same => absurd (same ▸ created) dropped.ne_created
  | addCall created =>
      exact dropped.setCaller fun same => absurd (same ▸ created) dropped.ne_created
  | start => exact dropped.start _ _
  | requestShutdown =>
      refine ⟨?_, dropped.unused, dropped.step⟩
      simp [requested, dropped.late]
  | cancelAll running =>
      have late := dropped.late
      rw [running] at late
      cases late
  | shutdownQueue => exact ⟨rfl, dropped.unused, dropped.step⟩
  | join => exact ⟨rfl, dropped.unused, dropped.step⟩
  | removeAllCalls =>
      refine ⟨rfl, ?_, ?_⟩
      · rw [Caller.remove_log]
        exact dropped.unused
      · rw [Caller.remove_step]
        exact dropped.step
  | @asyncNext j =>
      have kept : Dropped (s.setCaller j { s.callers j with outstanding := false }) i :=
        dropped.setCaller fun same => same ▸ ⟨dropped.unused, dropped.step⟩
      exact ⟨kept.late, kept.unused, kept.step⟩
  | completeOne completes =>
      simp only [Pump.completeOne, requested, if_true] at completes
      split at completes
      · cases completes
      · obtain rfl := Option.some.inj completes
        exact ⟨dropped.late, dropped.unused, dropped.step⟩
      · obtain rfl := Option.some.inj completes
        exact ⟨dropped.late, dropped.unused, dropped.step⟩

omit [Inhabited Resp] in
theorem Dropped.not_pumpCorrect (dropped : Dropped s i)
    (returned : (s.callers i).step = .returned) : ¬ PumpCorrect s := by
  intro correct
  have late := dropped.late
  have valued := correct.valued i returned (fun running => by rw [running] at late; cases late)
    (fun requested => by rw [requested] at late; cases late)
  rw [dropped.unused] at valued
  cases valued

/-- A call that `CancelAll` finds between `AddCall` and `Start` has its own promise
used in place of the caller's. -/
theorem PumpInv.not_correct_of_cancelAll (inv : PumpInv s)
    (added : (s.callers i).step = .added) (step : StepOf Pump.step s .cancelAll t) :
    ¬ PumpCorrect t := by
  intro correct
  cases Pump.step_cases step
  have uses : promiseUses (s.callers i).cancel.log = [] ∨
      promiseUses (s.callers i).cancel.log = [.held] := correct.uses i
  obtain ⟨call, tracked, -, -, unused⟩ := (inv.callers i).of_added added
  rw [Caller.cancel_of_tracked tracked call, promiseUses_append, unused] at uses
  simp [UnaryCall.create, Call.create, Call.cancel, promiseUses, CallAction.used] at uses

theorem PumpInv.dropped_of_addCall (inv : PumpInv s)
    (late : s.shutdown.beforeCancelAll = false)
    (step : StepOf Pump.step s (.addCall i) t) : Dropped t i := by
  cases Pump.step_cases step with
  | addCall created =>
      refine ⟨late, ?_, ?_⟩
      · obtain ⟨-, -, -, uses⟩ := (inv.callers i).of_created created
        simpa [Pump.setCaller, Caller.addCall] using uses
      · simp [Pump.setCaller, Caller.addCall]

/-- A step out of order breaks the promise at once, or from the moment on at which
some caller returns. -/
theorem not_pumpCorrect_of_unguarded (inv : PumpInv s) (step : StepOf Pump.step s e t)
    (unguarded : ¬ CancelsStarted s e) :
    ¬ PumpCorrect t ∨ ∃ i, ∀ events u, Run (StepOf Pump.step) t events u →
      (u.callers i).step = .returned → ¬ PumpCorrect u := by
  cases e with
  | cancelAll =>
      obtain ⟨i, added⟩ := not_forall.mp unguarded
      exact .inl (inv.not_correct_of_cancelAll (not_not.mp added) step)
  | addCall i =>
      have late := Bool.eq_false_iff.mpr unguarded
      refine .inr ⟨i, fun events u run returned => ?_⟩
      have dropped := run.invariant (inv.dropped_of_addCall late step) Dropped.next
      exact dropped.not_pumpCorrect returned
  | _ => exact absurd trivial unguarded

end Pumps

/-- `CancelAll` runs between `AddCall` and `Start`: the promise of the caller will
never be handed over, because `Start` panics. -/
theorem not_pumpCorrect_window :
    ¬ ∀ (s : Pump Unit Unit Unit) events,
      Run (StepOf Pump.step) (Pump.new true) events s → PumpCorrect s := by
  intro correct
  have run : Run (StepOf Pump.step) (Pump.new true : Pump Unit Unit Unit)
      [.create (), .addCall (), .requestShutdown, .cancelAll, .start () ()] _ :=
    .cons rfl (.cons rfl (.cons rfl (.cons rfl (.cons rfl (.nil _)))))
  cases (correct _ _ run).running

end SpotSdk.Client
