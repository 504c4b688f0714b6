import SpotSdk.Foundations.LabelledRuns
import SpotSdk.MessagePump.CallMachines

/-!
# Runs of one call

After `Start` a call gets one event for each of its outstanding operations, in any
order and with any result, and may be cancelled at any time. The operations it
issues are compared with the order gRPC asks for: requests, `WritesDone`, reads,
`Finish`.
-/

namespace SpotSdk.Client

open SpotSdk.Foundations SpotSdk.Common

variable {Step Req Resp : Type*}

namespace GrpcOp

def isFinish : GrpcOp Req → Bool
  | .finish => true
  | _ => false

/-- The operations whose event brings no data. -/
def silent : GrpcOp Req → Bool
  | .read => false
  | .finish => false
  | _ => true

def written : GrpcOp Req → Option (Option Req)
  | .write request => some request
  | _ => none

end GrpcOp

namespace CallAction

def issued : CallAction Req Resp → Option (GrpcOp Req)
  | .issue op => some op
  | _ => none

/-- The promise an action uses up. -/
def used : CallAction Req Resp → Option PromiseSlot
  | .setValue promise _ => some promise
  | .callback _ _ _ promise => some promise
  | _ => none

/-- The responses the callback is given. -/
def handed : CallAction Req Resp → Option (List Resp)
  | .callback _ responses _ _ => some responses
  | _ => none

end CallAction

/-- The operations of a log, in the order they were issued. -/
def issuedOps (log : List (CallAction Req Resp)) : List (GrpcOp Req) :=
  log.filterMap CallAction.issued

/-- The requests a list of operations writes. -/
def writtenRequests (ops : List (GrpcOp Req)) : List (Option Req) :=
  ops.filterMap GrpcOp.written

def promiseUses (log : List (CallAction Req Resp)) : List PromiseSlot :=
  log.filterMap CallAction.used

def handedResponses (log : List (CallAction Req Resp)) : List (List Resp) :=
  log.filterMap CallAction.handed

/-- A call class as the pump sees it: its event handler, and the operations whose
event brings a response. -/
structure CallMachine (Step Req Resp : Type*) where
  onCompletionQueueEvent : Call Step Req Resp → Bool → Handled Step Req Resp
  receives : GrpcOp Req → Bool → Bool

/-- The responses that have arrived once the event of an operation is raised. -/
def CallMachine.receive (machine : CallMachine Step Req Resp) (received : List Resp)
    (op : GrpcOp Req) (success : Bool) (message : Resp) : List Resp :=
  if machine.receives op success then received ++ [message] else received

/-- A call in the pump: its outstanding operations, whether it was reported
complete, what it did so far and the responses that arrived. -/
structure CallRun (Step Req Resp : Type*) where
  call : Call Step Req Resp
  outstanding : List (GrpcOp Req)
  complete : Bool
  log : List (CallAction Req Resp)
  received : List Resp

inductive CallEvent (Resp : Type*)
  | event (index : Nat) (success : Bool) (message : Resp) (status : GrpcStatus)
  | cancel

namespace CallRun

/-- A call just after `Start`. -/
def started (begun : Call Step Req Resp × List (CallAction Req Resp)) :
    CallRun Step Req Resp :=
  { call := begun.1, outstanding := issuedOps begun.2, complete := false,
    log := begun.2, received := [] }

/-- The event of an outstanding operation, handled by the call. -/
def handle (machine : CallMachine Step Req Resp) (s : CallRun Step Req Resp)
    (op : GrpcOp Req) (rest : List (GrpcOp Req)) (success : Bool) (message : Resp)
    (status : GrpcStatus) : CallRun Step Req Resp :=
  let handled :=
    machine.onCompletionQueueEvent (s.call.fill op success message status) success
  { call := handled.1
    outstanding := rest ++ issuedOps handled.2.1
    complete := handled.2.2
    log := s.log ++ .event op success :: handled.2.1
    received := machine.receive s.received op success message }

/-- A call that was reported complete is deleted and gets no more events. -/
def step (machine : CallMachine Step Req Resp) (s : CallRun Step Req Resp) :
    CallEvent Resp → Option (CallRun Step Req Resp)
  | .cancel =>
      some { s with call := s.call.cancel.1, log := s.log ++ s.call.cancel.2 }
  | .event index success message status =>
      if s.complete then none
      else s.outstanding[index]?.map fun op =>
        s.handle machine op (s.outstanding.eraseIdx index) success message status

end CallRun

/-- Every entry of a kind has one of another kind before it. -/
def Precedes {α : Type*} (before after : α → Prop) (log : List α) : Prop :=
  ∀ front back a, log = front ++ a :: back → after a → ∃ b ∈ front, before b

/-- What a call owes its caller and gRPC, at one point of a run. -/
structure CallCorrect (requests : List Req) (s : CallRun Step Req Resp) : Prop where
  outstanding_le_one : s.outstanding.length ≤ 1
  complete_iff : s.complete = true ↔ s.outstanding = []
  finish_le_one : (issuedOps s.log).countP GrpcOp.isFinish ≤ 1
  callback_le_one : (handedResponses s.log).length ≤ 1
  finished : Precedes (fun a => ∃ success, a = .event .finish success)
    (fun a => a.handed.isSome) s.log
  promise_le_one : promiseUses s.log = [] ∨ promiseUses s.log = [.held]
  promise_used : s.complete = true → promiseUses s.log = [.held]
  written : ∃ k ≤ requests.length,
    writtenRequests (issuedOps s.log) = (requests.take k).map some
  writesDone : ∀ front back, s.log = front ++ .issue .writesDone :: back →
    writtenRequests (issuedOps front) = requests.map some
  handed : ∀ responses ∈ handedResponses s.log, responses = s.received

/-- Every run after a `Start` that went through keeps the call correct. -/
def RunsCorrect (machine : CallMachine Step Req Resp) (requests : List Req)
    (start : Option (Call Step Req Resp × List (CallAction Req Resp))) : Prop :=
  ∀ begun, start = some begun → ∀ events s,
    Run (StepOf (CallRun.step machine)) (CallRun.started begun) events s →
      CallCorrect requests s

/-! ## The order of the operations -/

/-- How far a call has come: requests written, `WritesDone` issued, `Finish` issued. -/
inductive Stage
  | idle
  | sending (count : Nat)
  | sent
  | finishing
  deriving DecidableEq, Repr

/-- One operation in its place. A call may finish early, and a call without
requests of its own to write reads from the start. -/
inductive Issues (requests : List Req) : Stage → GrpcOp Req → Stage → Prop
  | startCall : Issues requests .idle .startCall (.sending 0)
  | write {k} (h : k < requests.length) :
      Issues requests (.sending k) (.write requests[k]?) (.sending (k + 1))
  | writesDone : Issues requests (.sending requests.length) .writesDone .sent
  | readEarly {k} : Issues requests (.sending k) .read (.sending k)
  | read : Issues requests .sent .read .sent
  | finish {stage} (h : stage ≠ .finishing) : Issues requests stage .finish .finishing

/-- What operations that reached a stage have written and finished. -/
structure Progress (requests : List Req) (ops : List (GrpcOp Req)) (stage : Stage) :
    Prop where
  wrote : match stage with
    | .idle => writtenRequests ops = []
    | .sending k => k ≤ requests.length ∧
        writtenRequests ops = (requests.take k).map some
    | .sent => writtenRequests ops = requests.map some
    | .finishing => ∃ k ≤ requests.length,
        writtenRequests ops = (requests.take k).map some
  finishes : ops.countP GrpcOp.isFinish = if stage = .finishing then 1 else 0

section Order

variable {requests : List Req} {stage stage' : Stage} {op : GrpcOp Req}
  {ops more : List (GrpcOp Req)}

theorem Progress.nil : Progress requests [] .idle :=
  ⟨rfl, rfl⟩

theorem Progress.prefix_written (progress : Progress requests ops stage) :
    ∃ k ≤ requests.length, writtenRequests ops = (requests.take k).map some := by
  have wrote := progress.wrote
  cases stage with
  | idle => exact ⟨0, Nat.zero_le _, wrote⟩
  | sending k => exact ⟨k, wrote⟩
  | sent => exact ⟨requests.length, Nat.le_refl _, by rw [List.take_length]; exact wrote⟩
  | finishing => exact wrote

theorem writtenRequests_snoc :
    writtenRequests (ops ++ [op]) = writtenRequests ops ++ op.written.toList := by
  cases op <;> simp [writtenRequests, GrpcOp.written]

/-- An operation in its place carries the progress on. -/
theorem Progress.issue (progress : Progress requests ops stage)
    (issues : Issues requests stage op stage') :
    Progress requests (ops ++ [op]) stage' := by
  have wrote := progress.wrote
  have finishes := progress.finishes
  constructor
  · rw [writtenRequests_snoc]
    cases issues with
    | startCall => exact ⟨Nat.zero_le _, by simpa [GrpcOp.written] using wrote⟩
    | @write k h =>
        refine ⟨h, ?_⟩
        rw [wrote.2, List.take_add_one, List.map_append, List.getElem?_eq_getElem h]
        rfl
    | writesDone =>
        rw [wrote.2, List.take_length]
        exact List.append_nil _
    | readEarly => simpa [GrpcOp.written] using wrote
    | read => simpa [GrpcOp.written] using wrote
    | finish =>
        obtain ⟨k, hk, written⟩ := progress.prefix_written
        exact ⟨k, hk, by simpa [GrpcOp.written] using written⟩
  · rw [List.countP_append, finishes]
    cases issues <;> simp_all [GrpcOp.isFinish]

theorem Progress.run (progress : Progress requests ops stage)
    (run : Run (Issues requests) stage more stage') :
    Progress requests (ops ++ more) stage' := by
  induction run generalizing ops with
  | nil => rwa [List.append_nil]
  | cons issues _ ih =>
      rw [List.append_cons]
      exact ih (progress.issue issues)

/-- Where `WritesDone` stands among operations in order, all requests were written. -/
theorem written_before_writesDone
    (run : Run (Issues requests) .idle (ops ++ .writesDone :: more) stage) :
    writtenRequests ops = requests.map some := by
  obtain ⟨middle, front, rest⟩ := run.split
  have wrote := (Progress.nil.run front).wrote
  cases rest with
  | cons issues _ =>
      cases issues
      simpa using wrote.2

end Order

/-! ## A class that keeps the order -/

section Refinement

variable {requests : List Req} {machine : CallMachine Step Req Resp}
  {Waits : Call Step Req Resp → GrpcOp Req → Stage → List Resp → Prop}
  {stage : Stage} {s t : CallRun Step Req Resp} {e : CallEvent Resp}

/-- How a live call answers an event: with the next operation in order, or after
`Finish` with its callback. -/
inductive Answers (requests : List Req)
    (Waits : Call Step Req Resp → GrpcOp Req → Stage → List Resp → Prop)
    (call : Call Step Req Resp) (op : GrpcOp Req) (stage : Stage) (received : List Resp) :
    Handled Step Req Resp → Prop
  | issues {call' op' stage'} (issues : Issues requests stage op' stage')
      (waits : Waits call' op' stage' received) (status : call'.callStatus = call.callStatus)
      (callback : call'.callback = call.callback) (promise : call'.promise = call.promise) :
      Answers requests Waits call op stage received (call', [.issue op'], false)
  | completes (finish : op = .finish) :
      Answers requests Waits call op stage received (call.complete received)

/-- A class whose calls answer every event in order. `Waits` ties a call that waits
for an operation to its stage and to the responses that arrived. -/
structure Refines (machine : CallMachine Step Req Resp) (requests : List Req)
    (Waits : Call Step Req Resp → GrpcOp Req → Stage → List Resp → Prop) : Prop where
  cancelled : ∀ call success, call.callStatus = .cancelled →
    machine.onCompletionQueueEvent call success = (call, [], true)
  answers : ∀ {call op stage received}, Waits call op stage received →
    call.callStatus = .called → call.callback = true → ∀ success message status,
    Answers requests Waits (call.fill op success message status) op stage
      (machine.receive received op success message)
      (machine.onCompletionQueueEvent (call.fill op success message status) success)

@[simp] theorem Call.fill_callStatus (call : Call Step Req Resp) (op success message status) :
    (call.fill op success message status).callStatus = call.callStatus := by
  cases op <;> cases success <;> rfl

@[simp] theorem Call.fill_callback (call : Call Step Req Resp) (op success message status) :
    (call.fill op success message status).callback = call.callback := by
  cases op <;> cases success <;> rfl

@[simp] theorem Call.fill_promise (call : Call Step Req Resp) (op success message status) :
    (call.fill op success message status).promise = call.promise := by
  cases op <;> cases success <;> rfl

/-- Cancelling a call that is under way uses its promise. -/
theorem Call.cancel_called (call : Call Step Req Resp) (h : call.callStatus = .called) :
    call.cancel.1.callStatus = .cancelled ∧ promiseUses call.cancel.2 = [call.promise] := by
  unfold Call.cancel
  rw [h]
  exact ⟨rfl, rfl⟩

/-- Cancelling a call that has ended changes nothing its caller sees. -/
theorem Call.cancel_ended (call : Call Step Req Resp)
    (h : call.callStatus = .cancelled ∨ call.callStatus = .completed) :
    call.cancel.1.callStatus = call.callStatus ∧ call.cancel.2 = [] := by
  unfold Call.cancel
  cases h with
  | inl h =>
      rw [h]
      exact ⟨rfl, rfl⟩
  | inr h =>
      rw [h]
      exact ⟨rfl, rfl⟩

@[simp] theorem issuedOps_append (log more : List (CallAction Req Resp)) :
    issuedOps (log ++ more) = issuedOps log ++ issuedOps more :=
  List.filterMap_append

@[simp] theorem promiseUses_append (log more : List (CallAction Req Resp)) :
    promiseUses (log ++ more) = promiseUses log ++ promiseUses more :=
  List.filterMap_append

@[simp] theorem handedResponses_append (log more : List (CallAction Req Resp)) :
    handedResponses (log ++ more) = handedResponses log ++ handedResponses more :=
  List.filterMap_append

/-- Nothing is asked of a list that has no entry of the later kind. -/
theorem Precedes.append {α : Type*} {before after : α → Prop} {log more : List α}
    (log_precedes : Precedes before after log)
    (more_precedes : ∀ front back a, more = front ++ a :: back → after a →
      ∃ b ∈ log ++ front, before b) : Precedes before after (log ++ more) := by
  intro front back a eq ha
  rcases List.append_eq_append_iff.mp eq with
    ⟨middle, front_eq, more_eq⟩ | ⟨middle, log_eq, more_eq⟩
  · subst front_eq
    exact more_precedes middle back a more_eq ha
  · cases middle with
    | nil =>
        rw [List.append_nil] at log_eq
        subst log_eq
        simpa using more_precedes [] back a more_eq.symm ha
    | cons m middle =>
        obtain ⟨rfl, -⟩ := List.cons.inj more_eq
        exact log_precedes front middle a log_eq ha

/-- Where a call stands between two events. -/
inductive Phase (Waits : Call Step Req Resp → GrpcOp Req → Stage → List Resp → Prop)
    (stage : Stage) (s : CallRun Step Req Resp) : Prop
  | waiting {op} (outstanding : s.outstanding = [op]) (complete : s.complete = false)
      (status : s.call.callStatus = .called) (callback : s.call.callback = true)
      (promise : s.call.promise = .held) (uses : promiseUses s.log = [])
      (calls : handedResponses s.log = []) (waits : Waits s.call op stage s.received)
  | cancelled (outstanding : s.outstanding.length ≤ 1)
      (complete : s.complete = s.outstanding.isEmpty)
      (status : s.call.callStatus = .cancelled) (uses : promiseUses s.log = [.held])
      (calls : handedResponses s.log = [])
  | completed (outstanding : s.outstanding = []) (complete : s.complete = true)
      (status : s.call.callStatus = .completed) (uses : promiseUses s.log = [.held])
      (calls : handedResponses s.log = [s.received])

abbrev CallbackAfterFinish (log : List (CallAction Req Resp)) : Prop :=
  Precedes (fun a => ∃ success, a = .event .finish success) (fun a => a.handed.isSome) log

/-- The invariant of a run of one call. -/
structure CallInv (requests : List Req)
    (Waits : Call Step Req Resp → GrpcOp Req → Stage → List Resp → Prop)
    (s : CallRun Step Req Resp) : Prop where
  stage : ∃ stage, Run (Issues requests) .idle (issuedOps s.log) stage ∧ Phase Waits stage s
  finished : CallbackAfterFinish s.log

theorem CallInv.correct (inv : CallInv requests Waits s) : CallCorrect requests s := by
  obtain ⟨stage, run, phase⟩ := inv.stage
  have progress := Progress.nil.run run
  rw [List.nil_append] at progress
  refine
    { outstanding_le_one := ?_, complete_iff := ?_, finish_le_one := ?finish_le_one,
      callback_le_one := ?_, finished := inv.finished, promise_le_one := ?_,
      promise_used := ?_, written := progress.prefix_written,
      writesDone := ?writesDone, handed := ?_ }
  case finish_le_one =>
    rw [progress.finishes]
    split <;> omega
  case writesDone =>
    intro front back eq
    rw [eq, issuedOps_append] at run
    exact written_before_writesDone run
  all_goals
    cases phase with
    | waiting outstanding complete _ _ _ uses calls _ => simp [*]
    | cancelled outstanding complete _ uses calls => simp [*]
    | completed outstanding complete _ uses calls => simp [*]

theorem CallbackAfterFinish.nil : CallbackAfterFinish ([] : List (CallAction Req Resp)) := by
  intro front back a eq
  simp at eq

/-- A log without callbacks may be added to. -/
theorem CallbackAfterFinish.append_quiet {log more : List (CallAction Req Resp)}
    (h : CallbackAfterFinish log) (quiet : handedResponses more = []) :
    CallbackAfterFinish (log ++ more) := by
  refine Precedes.append h ?_
  intro front back a eq ha
  have none := List.filterMap_eq_nil_iff.mp quiet a (by simp [eq])
  simp [none] at ha

/-- A callback may follow the event of `Finish`. -/
theorem CallbackAfterFinish.append_complete {log : List (CallAction Req Resp)}
    (h : CallbackAfterFinish log) (success : Bool) (a : CallAction Req Resp) :
    CallbackAfterFinish (log ++ [.event .finish success, a]) := by
  rw [List.append_cons]
  refine Precedes.append (h.append_quiet rfl) ?_
  intro front back b eq hb
  exact ⟨.event .finish success, by simp, success, rfl⟩

/-- `Cancel` uses the promise of a call that is under way, and nothing else. -/
theorem CallInv.cancel (inv : CallInv requests Waits s)
    (step : StepOf (CallRun.step machine) s .cancel t) : CallInv requests Waits t := by
  obtain ⟨stage, run, phase⟩ := inv.stage
  obtain rfl := Option.some.inj step
  have quiet : issuedOps s.call.cancel.2 = [] ∧ handedResponses s.call.cancel.2 = [] := by
    unfold Call.cancel
    cases s.call.callStatus <;> exact ⟨rfl, rfl⟩
  have calls_eq : handedResponses (s.log ++ s.call.cancel.2) = handedResponses s.log := by
    rw [handedResponses_append, quiet.2, List.append_nil]
  refine ⟨⟨stage, by simpa [quiet.1] using run, ?_⟩, inv.finished.append_quiet quiet.2⟩
  cases phase with
  | waiting outstanding complete status callback promise uses calls _ =>
      obtain ⟨status', uses'⟩ := s.call.cancel_called status
      refine Phase.cancelled ?_ ?_ status' ?_ (calls_eq.trans calls)
      · simp [outstanding]
      · simp [outstanding, complete]
      · rw [promiseUses_append, uses, uses', promise]
        rfl
  | cancelled outstanding complete status uses calls =>
      obtain ⟨status', actions⟩ := s.call.cancel_ended (.inl status)
      refine Phase.cancelled outstanding complete (status'.trans status) ?_
        (calls_eq.trans calls)
      rw [actions, List.append_nil]
      exact uses
  | completed outstanding complete status uses calls =>
      obtain ⟨status', actions⟩ := s.call.cancel_ended (.inr status)
      refine Phase.completed outstanding complete (status'.trans status) ?_
        (calls_eq.trans calls)
      rw [actions, List.append_nil]
      exact uses

/-- An event of a live call is answered in order. -/
theorem CallInv.answer (refines : Refines machine requests Waits) {op : GrpcOp Req}
    (finished : CallbackAfterFinish s.log)
    (run : Run (Issues requests) .idle (issuedOps s.log) stage)
    (status : s.call.callStatus = .called) (callback : s.call.callback = true)
    (promise : s.call.promise = .held) (uses : promiseUses s.log = [])
    (calls : handedResponses s.log = []) (waits : Waits s.call op stage s.received)
    (success : Bool) (message : Resp) (grpcStatus : GrpcStatus) :
    CallInv requests Waits (s.handle machine op [] success message grpcStatus) := by
  have answers := refines.answers waits status callback success message grpcStatus
  unfold CallRun.handle
  generalize machine.onCompletionQueueEvent _ success = handled at answers ⊢
  cases answers with
  | @issues call' op' stage' issues waits' status' callback' promise' =>
      rw [Call.fill_callStatus, status] at status'
      rw [Call.fill_callback, callback] at callback'
      rw [Call.fill_promise, promise] at promise'
      have ops : issuedOps (s.log ++ [.event op success, .issue op']) =
          issuedOps s.log ++ [op'] := by
        rw [issuedOps_append]
        rfl
      refine ⟨⟨stage', ?_, ?_⟩, finished.append_quiet rfl⟩
      · rw [ops]
        exact run.append (Run.single issues)
      · apply @Phase.waiting _ _ _ Waits stage' _ op' rfl rfl status' callback' promise'
        · rw [promiseUses_append, uses]
          rfl
        · rw [handedResponses_append, calls]
          rfl
        · exact waits'
  | completes finish =>
      subst finish
      refine ⟨⟨stage, ?_, ?_⟩, finished.append_complete success _⟩
      · rw [issuedOps_append]
        exact run.append (Run.nil stage)
      · have slot := (s.call.fill_promise .finish success message grpcStatus).trans promise
        apply Phase.completed rfl rfl rfl
        · rw [promiseUses_append, uses]
          exact congrArg (fun slot => [slot]) slot
        · rw [handedResponses_append, calls]
          rfl

/-- The event of a cancelled call is dropped, and the call with it. -/
theorem CallInv.drop (refines : Refines machine requests Waits)
    (finished : CallbackAfterFinish s.log)
    (run : Run (Issues requests) .idle (issuedOps s.log) stage)
    (status : s.call.callStatus = .cancelled) (uses : promiseUses s.log = [.held])
    (calls : handedResponses s.log = []) (op : GrpcOp Req) (success : Bool)
    (message : Resp) (grpcStatus : GrpcStatus) :
    CallInv requests Waits (s.handle machine op [] success message grpcStatus) := by
  have filled := (s.call.fill_callStatus op success message grpcStatus).trans status
  unfold CallRun.handle
  rw [refines.cancelled _ success filled]
  refine ⟨⟨stage, ?_, ?_⟩, finished.append_quiet rfl⟩
  · rw [issuedOps_append]
    exact run.append (Run.nil stage)
  · refine Phase.cancelled (Nat.zero_le _) rfl filled ?_ ?_
    · rw [promiseUses_append, uses]
      rfl
    · rw [handedResponses_append, calls]
      rfl

/-- An event is that of an outstanding operation. -/
theorem CallRun.handle_of_step {index : Nat} {success : Bool} {message : Resp}
    {status : GrpcStatus}
    (step : StepOf (CallRun.step machine) s (.event index success message status) t) :
    ∃ op, s.outstanding[index]? = some op ∧
      s.handle machine op (s.outstanding.eraseIdx index) success message status = t := by
  simp only [StepOf, CallRun.step] at step
  split at step
  · cases step
  · exact Option.map_eq_some_iff.mp step

theorem only_outstanding {α : Type*} {l : List α} {index : Nat} {a : α}
    (one : l.length ≤ 1) (h : l[index]? = some a) : l = [a] ∧ index = 0 := by
  cases l with
  | nil => simp at h
  | cons first rest =>
      obtain rfl : rest = [] := List.eq_nil_of_length_eq_zero (by simpa using one)
      cases index with
      | zero => exact ⟨congrArg (fun x => [x]) (Option.some.inj h), rfl⟩
      | succ index => simp at h

/-- Every event keeps the invariant. -/
theorem CallInv.event (refines : Refines machine requests Waits)
    (inv : CallInv requests Waits s) {index : Nat} {success : Bool} {message : Resp}
    {status : GrpcStatus}
    (step : StepOf (CallRun.step machine) s (.event index success message status) t) :
    CallInv requests Waits t := by
  obtain ⟨stage, run, phase⟩ := inv.stage
  obtain ⟨op, hop, rfl⟩ := CallRun.handle_of_step step
  cases phase with
  | waiting outstanding _ callStatus callback promise uses calls waits =>
      obtain ⟨only, rfl⟩ := only_outstanding (by simp [outstanding]) hop
      obtain rfl := List.singleton_inj.mp (only.symm.trans outstanding)
      rw [only]
      exact CallInv.answer refines inv.finished run callStatus callback promise uses
        calls waits success message status
  | cancelled outstanding _ callStatus uses calls =>
      obtain ⟨only, rfl⟩ := only_outstanding outstanding hop
      rw [only]
      exact CallInv.drop refines inv.finished run callStatus uses calls op success
        message status
  | completed outstanding =>
      simp [outstanding] at hop

theorem CallInv.step (refines : Refines machine requests Waits)
    (inv : CallInv requests Waits s) (step : StepOf (CallRun.step machine) s e t) :
    CallInv requests Waits t := by
  cases e with
  | event index success message status => exact inv.event refines step
  | cancel => exact inv.cancel step

/-- The state after `Start` meets the invariant when the call waits for the first
operation, in its place. -/
theorem CallInv.started {call : Call Step Req Resp} {first : GrpcOp Req} {step : Step}
    (issues : Issues requests .idle first stage)
    (waits : Waits (call.begin requests first step).1 first stage []) :
    CallInv requests Waits (CallRun.started (call.begin requests first step)) := by
  refine ⟨⟨stage, Run.single issues, ?_⟩, ?_⟩
  · exact Phase.waiting rfl rfl rfl rfl rfl rfl rfl waits
  · exact CallbackAfterFinish.append_quiet .nil rfl

/-- A class that answers in order keeps every one of its calls correct. -/
theorem Refines.runsCorrect (refines : Refines machine requests Waits)
    {start : Option (Call Step Req Resp × List (CallAction Req Resp))}
    (started : ∀ begun, start = some begun →
      CallInv requests Waits (CallRun.started begun)) :
    RunsCorrect machine requests start := by
  intro begun hbegun events s run
  exact (run.invariant (started begun hbegun) fun inv step => inv.step refines step).correct

end Refinement

end SpotSdk.Client
