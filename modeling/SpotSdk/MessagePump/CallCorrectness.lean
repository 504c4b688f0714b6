import Mathlib.Algebra.Ring.Nat
import SpotSdk.MessagePump.CallRuns

/-!
# The four call classes

Each class issues its operations in order as long as its request index does not
wrap. The index is an unsigned int and is compared with the number of requests, so
the two classes that write requests are correct for fewer than 2^32 of them.
-/

namespace SpotSdk.Client

open SpotSdk.Foundations SpotSdk.Common

variable {Step Req Resp : Type*} {requests : List Req}

/-- A class with one response gets it with the event of `Finish`. -/
def receivesAtFinish (op : GrpcOp Req) (_success : Bool) : Bool :=
  op.isFinish

/-- A reading class gets a response with each successful read. -/
def receivesReads : GrpcOp Req → Bool → Bool
  | .read, success => success
  | _, _ => false

def unaryMachine : CallMachine Unit Req Resp :=
  ⟨UnaryCall.onCompletionQueueEvent, receivesAtFinish⟩

def requestStreamMachine : CallMachine RequestStreamCall.NextStep Req Resp :=
  ⟨RequestStreamCall.onCompletionQueueEvent, receivesAtFinish⟩

def responseStreamMachine : CallMachine ResponseStreamCall.NextStep Req Resp :=
  ⟨ResponseStreamCall.onCompletionQueueEvent, receivesReads⟩

def requestResponseStreamMachine :
    CallMachine RequestResponseStreamCall.NextStep Req Resp :=
  ⟨RequestResponseStreamCall.onCompletionQueueEvent, receivesReads⟩

section Answers

variable {machine : CallMachine Step Req Resp}
  {Waits : Call Step Req Resp → GrpcOp Req → Stage → List Resp → Prop}
  {call call' : Call Step Req Resp} {op op' : GrpcOp Req} {stage stage' : Stage}
  {received : List Resp} {success : Bool} {done next : Step}

theorem Call.fill_silent (call : Call Step Req Resp) (silent : op.silent = true)
    (success : Bool) (message : Resp) (status : GrpcStatus) :
    call.fill op success message status = call := by
  cases op <;> first | rfl | cases silent

theorem receivesAtFinish_silent (silent : op.silent = true) :
    receivesAtFinish op success = false := by
  cases op <;> first | rfl | cases silent

theorem receivesReads_silent (silent : op.silent = true) :
    receivesReads op success = false := by
  cases op <;> first | rfl | cases silent

theorem CallMachine.receive_quiet (quiet : machine.receives op success = false)
    (message : Resp) : machine.receive received op success message = received := by
  rw [CallMachine.receive, quiet]
  rfl

/-- An event that brings nothing is answered with one operation. -/
theorem Answers.proceed {message : Resp} {status : GrpcStatus}
    (unfilled : call.fill op success message status = call)
    (quiet : machine.receives op success = false)
    (handled : machine.onCompletionQueueEvent call success = call.proceed op' next)
    (issues : Issues requests stage op' stage')
    (waits : Waits { call with nextStep := next } op' stage' received) :
    Answers requests Waits (call.fill op success message status) op stage
      (machine.receive received op success message)
      (machine.onCompletionQueueEvent (call.fill op success message status) success) := by
  rw [unfilled, CallMachine.receive_quiet quiet, handled]
  exact Answers.issues issues waits rfl rfl rfl

/-- While the index does not wrap, the write branch writes the next request and
goes on after the last one. -/
theorem Call.writeNext_eq (call : Call Step Req Resp) (done : Step) {k : Nat}
    (fits : call.requests.length < 2 ^ 32) (index : call.nextRequestToWrite.toNat = k)
    (hk : k < call.requests.length) :
    ∃ next : UInt32, next.toNat = k + 1 ∧
      call.writeNext done = { call with nextRequestToWrite := next }.proceed
        (.write call.requests[k]?)
        (if k + 1 = call.requests.length then done else call.nextStep) := by
  have next : (call.nextRequestToWrite + 1).toNat = k + 1 := by
    rw [UInt32.toNat_add, index]
    exact Nat.mod_eq_of_lt (by simp; omega)
  refine ⟨call.nextRequestToWrite + 1, next, ?_⟩
  simp only [Call.writeNext, next, index]

/-- A write is followed by the next one, or after the last by the next step. -/
theorem Answers.writeNext {k : Nat} {message : Resp} {status : GrpcStatus}
    (unfilled : call.fill op success message status = call)
    (quiet : machine.receives op success = false)
    (fits : requests.length < 2 ^ 32) (same : call.requests = requests)
    (hk : k < requests.length) (index : call.nextRequestToWrite.toNat = k)
    (handled : machine.onCompletionQueueEvent call success = call.writeNext done)
    (more : ∀ i : UInt32, i.toNat = k + 1 → k + 1 < requests.length →
      Waits { call with nextRequestToWrite := i } (.write requests[k]?) (.sending (k + 1))
        received)
    (last : ∀ i : UInt32, Waits { call with nextRequestToWrite := i, nextStep := done }
      (.write requests[k]?) (.sending requests.length) received) :
    Answers requests Waits (call.fill op success message status) op (.sending k)
      (machine.receive received op success message)
      (machine.onCompletionQueueEvent (call.fill op success message status) success) := by
  subst same
  obtain ⟨i, hi, eq⟩ := call.writeNext_eq done fits index hk
  rw [unfilled, CallMachine.receive_quiet quiet, handled, eq]
  refine Answers.issues (.write hk) ?_ rfl rfl rfl
  by_cases final : k + 1 = call.requests.length
  · rw [if_pos final, final]
    exact last i
  · rw [if_neg final]
    exact more i hi (by omega)

/-- A response that was read is kept, and the next one is asked for. -/
theorem Answers.readNext {message : Resp} (status : GrpcStatus)
    (reads : machine.receives .read true = true)
    (handled : machine.onCompletionQueueEvent { call with lastResponse := message } true =
      { call with lastResponse := message }.readNext next)
    (issues : Issues requests stage .read stage)
    (waits : Waits { call with
        lastResponse := message, responses := call.responses ++ [message], nextStep := next }
      .read stage (call.responses ++ [message])) :
    Answers requests Waits (call.fill .read true message status) .read stage
      (machine.receive call.responses .read true message)
      (machine.onCompletionQueueEvent (call.fill .read true message status) true) := by
  have received : machine.receive call.responses .read true message =
      call.responses ++ [message] := by
    rw [CallMachine.receive, reads]
    rfl
  rw [received]
  exact handled ▸ Answers.issues issues waits rfl rfl rfl

end Answers

/-! ## RequestStreamCall -/

namespace RequestStreamCall

/-- What a call waits for at each of its steps. -/
inductive Waits (requests : List Req) (call : Call NextStep Req Resp) (op : GrpcOp Req) :
    Stage → List Resp → Prop
  | write {k} (step : call.nextStep = .writeRequest) (silent : op.silent = true)
      (same : call.requests = requests) (hk : k < requests.length)
      (index : call.nextRequestToWrite.toNat = k) : Waits requests call op (.sending k) []
  | writesDone (step : call.nextStep = .callWritesDone) (silent : op.silent = true) :
      Waits requests call op (.sending requests.length) []
  | finish (step : call.nextStep = .callFinish) (silent : op.silent = true) :
      Waits requests call op .sent []
  | callback (step : call.nextStep = .callCallback) (last : op = .finish) :
      Waits requests call op .finishing []

theorem refines (fits : requests.length < 2 ^ 32) :
    Refines (requestStreamMachine : CallMachine NextStep Req Resp) requests
      (Waits requests) where
  cancelled call success h := by
    simp [requestStreamMachine, onCompletionQueueEvent, h]
  answers {call op stage received} waits called callback success message status := by
    have handled : requestStreamMachine.onCompletionQueueEvent call success =
        onCompletionQueueEvent call success := rfl
    rw [onCompletionQueueEvent, called] at handled
    cases waits with
    | @write k step silent same hk index =>
        have quiet : receivesAtFinish op success = false := receivesAtFinish_silent silent
        have unfilled := call.fill_silent silent success message status
        rw [step] at handled
        cases success with
        | false =>
            exact Answers.proceed unfilled quiet handled
              (.finish (by simp)) (.callback rfl rfl)
        | true =>
            refine Answers.writeNext unfilled quiet fits same hk index handled
              ?_ ?_
            · intro i hi more
              exact .write step rfl same more hi
            · intro i
              exact .writesDone rfl rfl
    | writesDone step silent =>
        have quiet : receivesAtFinish op success = false := receivesAtFinish_silent silent
        have unfilled := call.fill_silent silent success message status
        rw [step] at handled
        exact Answers.proceed unfilled quiet handled .writesDone
          (.finish rfl rfl)
    | finish step silent =>
        have quiet : receivesAtFinish op success = false := receivesAtFinish_silent silent
        have unfilled := call.fill_silent silent success message status
        rw [step] at handled
        exact Answers.proceed unfilled quiet handled (.finish (by simp))
          (.callback rfl rfl)
    | callback step last =>
        subst last
        have completes : onCompletionQueueEvent
            (call.fill .finish success message status) success =
            (call.fill .finish success message status).complete [message] := by
          simp [onCompletionQueueEvent, Call.fill, Call.completeIfSet, called, step,
            callback]
        simp only [requestStreamMachine, completes]
        exact Answers.completes rfl

/-- A fresh call that starts waits for its stream to open. -/
theorem started [Inhabited Resp] (begun : Call NextStep Req Resp × List (CallAction Req Resp))
    (h : start create requests = some begun) :
    CallInv requests (Waits requests) (CallRun.started begun) := by
  cases requests with
  | nil => cases h
  | cons request rest =>
      obtain rfl := Option.some.inj h
      exact CallInv.started .startCall (.write rfl rfl rfl (Nat.succ_pos _) rfl)

end RequestStreamCall

/-! ## ResponseStreamCall -/

namespace ResponseStreamCall

/-- What a call waits for at each of its steps. -/
inductive Waits (call : Call NextStep Req Resp) (op : GrpcOp Req) :
    Stage → List Resp → Prop
  | start (step : call.nextStep = .startRead) (silent : op.silent = true) :
      Waits call op (.sending 0) call.responses
  | read (step : call.nextStep = .continueReadOrCallFinish) (reads : op = .read) :
      Waits call op (.sending 0) call.responses
  | callback (step : call.nextStep = .callCallback) (last : op = .finish) :
      Waits call op .finishing call.responses

theorem refines :
    Refines (responseStreamMachine : CallMachine NextStep Req Resp) requests Waits where
  cancelled call success h := by
    simp [responseStreamMachine, onCompletionQueueEvent, h]
  answers {call op stage received} waits called callback success message status := by
    have handled : responseStreamMachine.onCompletionQueueEvent call success =
        onCompletionQueueEvent call success := rfl
    rw [onCompletionQueueEvent, called] at handled
    cases waits with
    | start step silent =>
        have quiet : receivesReads op success = false := receivesReads_silent silent
        have unfilled := call.fill_silent silent success message status
        rw [step] at handled
        cases success with
        | false =>
            exact Answers.proceed unfilled quiet handled (.finish (by simp))
              (.callback rfl rfl)
        | true =>
            exact Answers.proceed unfilled quiet handled .readEarly
              (.read rfl rfl)
    | read step reads =>
        subst reads
        cases success with
        | false =>
            rw [step] at handled
            exact Answers.proceed rfl rfl handled (.finish (by simp)) (.callback rfl rfl)
        | true =>
            have next : onCompletionQueueEvent { call with lastResponse := message } true =
                { call with lastResponse := message }.readNext
                  .continueReadOrCallFinish := by
              simp [onCompletionQueueEvent, called, step]
            exact Answers.readNext status rfl next .readEarly (.read rfl rfl)
    | callback step last =>
        subst last
        have completes : onCompletionQueueEvent
            (call.fill .finish success message status) success =
            (call.fill .finish success message status).complete call.responses := by
          simp [onCompletionQueueEvent, Call.fill, Call.completeIfSet, called, step,
            callback]
        simp only [responseStreamMachine, completes]
        exact Answers.completes rfl

/-- A fresh call that starts waits for its stream to open. -/
theorem started [Inhabited Resp] {request : Req}
    (begun : Call NextStep Req Resp × List (CallAction Req Resp))
    (h : start create request = some begun) :
    CallInv [request] Waits (CallRun.started begun) := by
  obtain rfl := Option.some.inj h
  exact CallInv.started .startCall (.start rfl rfl)

end ResponseStreamCall

/-! ## RequestResponseStreamCall -/

namespace RequestResponseStreamCall

/-- What a call waits for at each of its steps. -/
inductive Waits (requests : List Req) (call : Call NextStep Req Resp) (op : GrpcOp Req) :
    Stage → List Resp → Prop
  | write {k} (step : call.nextStep = .writeRequest) (silent : op.silent = true)
      (same : call.requests = requests) (hk : k < requests.length)
      (index : call.nextRequestToWrite.toNat = k) :
      Waits requests call op (.sending k) call.responses
  | writesDone (step : call.nextStep = .callWritesDone) (silent : op.silent = true) :
      Waits requests call op (.sending requests.length) call.responses
  | start (step : call.nextStep = .startRead) (silent : op.silent = true) :
      Waits requests call op .sent call.responses
  | read (step : call.nextStep = .continueReadOrCallFinish) (reads : op = .read) :
      Waits requests call op .sent call.responses
  | callback (step : call.nextStep = .callCallback) (last : op = .finish) :
      Waits requests call op .finishing call.responses

theorem refines (fits : requests.length < 2 ^ 32) :
    Refines (requestResponseStreamMachine : CallMachine NextStep Req Resp) requests
      (Waits requests) where
  cancelled call success h := by
    simp [requestResponseStreamMachine, onCompletionQueueEvent, h]
  answers {call op stage received} waits called callback success message status := by
    have handled : requestResponseStreamMachine.onCompletionQueueEvent call success =
        onCompletionQueueEvent call success := rfl
    rw [onCompletionQueueEvent, called] at handled
    cases waits with
    | @write k step silent same hk index =>
        have quiet : receivesReads op success = false := receivesReads_silent silent
        have unfilled := call.fill_silent silent success message status
        rw [step] at handled
        cases success with
        | false =>
            exact Answers.proceed unfilled quiet handled (.finish (by simp))
              (.callback rfl rfl)
        | true =>
            refine Answers.writeNext unfilled quiet fits same hk index handled ?_ ?_
            · intro i hi more
              exact .write step rfl same more hi
            · intro i
              exact .writesDone rfl rfl
    | writesDone step silent =>
        have quiet : receivesReads op success = false := receivesReads_silent silent
        have unfilled := call.fill_silent silent success message status
        rw [step] at handled
        exact Answers.proceed unfilled quiet handled .writesDone (.start rfl rfl)
    | start step silent =>
        have quiet : receivesReads op success = false := receivesReads_silent silent
        have unfilled := call.fill_silent silent success message status
        rw [step] at handled
        exact Answers.proceed unfilled quiet handled .read (.read rfl rfl)
    | read step reads =>
        subst reads
        cases success with
        | false =>
            rw [step] at handled
            exact Answers.proceed rfl rfl handled (.finish (by simp)) (.callback rfl rfl)
        | true =>
            have next : onCompletionQueueEvent { call with lastResponse := message } true =
                { call with lastResponse := message }.readNext
                  .continueReadOrCallFinish := by
              simp [onCompletionQueueEvent, called, step]
            exact Answers.readNext status rfl next .read (.read rfl rfl)
    | callback step last =>
        subst last
        have completes : onCompletionQueueEvent
            (call.fill .finish success message status) success =
            (call.fill .finish success message status).complete call.responses := by
          simp [onCompletionQueueEvent, Call.fill, Call.completeIfSet, called, step,
            callback]
        simp only [requestResponseStreamMachine, completes]
        exact Answers.completes rfl

/-- A fresh call that starts waits for its stream to open. -/
theorem started [Inhabited Resp] (begun : Call NextStep Req Resp × List (CallAction Req Resp))
    (h : start create requests = some begun) :
    CallInv requests (Waits requests) (CallRun.started begun) := by
  cases requests with
  | nil => cases h
  | cons request rest =>
      obtain rfl := Option.some.inj h
      exact CallInv.started .startCall (.write rfl rfl rfl (Nat.succ_pos _) rfl)

end RequestResponseStreamCall

/-! ## UnaryCall -/

namespace UnaryCall

/-- A call waits for its answer only. -/
def Waits (_call : Call Unit Req Resp) (op : GrpcOp Req) (stage : Stage)
    (received : List Resp) : Prop :=
  op = .finish ∧ stage = .finishing ∧ received = []

theorem refines :
    Refines (unaryMachine : CallMachine Unit Req Resp) requests Waits where
  cancelled call success h := by
    simp [unaryMachine, onCompletionQueueEvent, h]
  answers {call op stage received} waits called callback success message status := by
    obtain ⟨rfl, rfl, rfl⟩ := waits
    have completes : onCompletionQueueEvent
        (call.fill .finish success message status) success =
        (call.fill .finish success message status).complete [message] := by
      simp [onCompletionQueueEvent, Call.fill, called]
    simp only [unaryMachine, completes]
    exact Answers.completes rfl

/-- A fresh call that starts waits for its answer. -/
theorem started [Inhabited Resp] {request : Req}
    (begun : Call Unit Req Resp × List (CallAction Req Resp))
    (h : start create request = some begun) :
    CallInv [request] Waits (CallRun.started begun) := by
  obtain rfl := Option.some.inj h
  exact CallInv.started (.finish (by simp)) ⟨rfl, rfl, rfl⟩

end UnaryCall

/-! ## The wrapped index -/

section Wrap

variable {machine : CallMachine Step Req Resp} {first done : Step}
  {s : CallRun Step Req Resp} {k : Nat}

/-- A call that has written `k` requests, some of them more than once, and writes
again at its next event. -/
structure StillWriting (first : Step) (requests : List Req) (k : Nat)
    (s : CallRun Step Req Resp) : Prop where
  called : s.call.callStatus = .called
  step : s.call.nextStep = first
  same : s.call.requests = requests
  live : s.complete = false
  outstanding : ∃ op, s.outstanding = [op] ∧ op.silent = true
  count : (writtenRequests (issuedOps s.log)).length = k

/-- An index that cannot reach the number of requests never ends the writing. -/
theorem StillWriting.next (long : 2 ^ 32 ≤ requests.length)
    (writes : ∀ call : Call Step Req Resp, call.callStatus = .called →
      call.nextStep = first →
      machine.onCompletionQueueEvent call true = call.writeNext done)
    (writing : StillWriting first requests k s) (message : Resp) (status : GrpcStatus) :
    ∃ t, StepOf (CallRun.step machine) s (.event 0 true message status) t ∧
      StillWriting first requests (k + 1) t := by
  obtain ⟨called, step, same, live, ⟨op, outstanding, silent⟩, count⟩ := writing
  have never : (s.call.nextRequestToWrite + 1).toNat ≠ s.call.requests.length := by
    have := (s.call.nextRequestToWrite + 1).toNat_lt
    rw [same]
    omega
  have handled := writes s.call called step
  rw [Call.writeNext, if_neg never] at handled
  refine ⟨s.handle machine op [] true message status, ?_, ?_⟩
  · simp [StepOf, CallRun.step, live, outstanding]
  · unfold CallRun.handle
    rw [Call.fill_silent _ silent, handled]
    refine ⟨called, step, same, rfl, ⟨_, rfl, rfl⟩, ?_⟩
    have ops : ∀ request, issuedOps (s.log ++ [.event op true, .issue (.write request)]) =
        issuedOps s.log ++ [.write request] := by
      intro request
      rw [issuedOps_append]
      rfl
    simp only [Call.proceed]
    rw [ops, writtenRequests_snoc, List.length_append, count]
    rfl

theorem StillWriting.run (long : 2 ^ 32 ≤ requests.length)
    (writes : ∀ call : Call Step Req Resp, call.callStatus = .called →
      call.nextStep = first →
      machine.onCompletionQueueEvent call true = call.writeNext done)
    (writing : StillWriting first requests k s) (message : Resp) (status : GrpcStatus)
    (n : Nat) :
    ∃ events t, Run (StepOf (CallRun.step machine)) s events t ∧
      StillWriting first requests (k + n) t := by
  induction n with
  | zero => exact ⟨[], s, Run.nil s, writing⟩
  | succ n ih =>
      obtain ⟨events, t, run, writing'⟩ := ih
      obtain ⟨u, step, writing''⟩ := writing'.next long writes message status
      exact ⟨_, u, run.append (Run.single step), writing''⟩

/-- With 2^32 requests or more, a call that is never refused a write goes on writing
after the last request. -/
theorem not_runsCorrect_of_long [Inhabited Resp] {call : Call Step Req Resp}
    (long : 2 ^ 32 ≤ requests.length)
    (writes : ∀ call : Call Step Req Resp, call.callStatus = .called →
      call.nextStep = first →
      machine.onCompletionQueueEvent call true = call.writeNext done)
    {start : Option (Call Step Req Resp × List (CallAction Req Resp))}
    (started : start = some (call.begin requests .startCall first)) :
    ¬ RunsCorrect machine requests start := by
  intro correct
  have writing : StillWriting first requests 0
      (CallRun.started (call.begin requests .startCall first)) :=
    ⟨rfl, rfl, rfl, rfl, ⟨_, rfl, rfl⟩, rfl⟩
  obtain ⟨events, t, run, writing'⟩ :=
    writing.run long writes default {} (requests.length + 1)
  obtain ⟨k, hk, written⟩ := (correct _ started events t run).written
  have count := writing'.count
  rw [written, List.length_map, List.length_take] at count
  omega

end Wrap

theorem RequestStreamCall.not_runsCorrect [Inhabited Resp] (long : 2 ^ 32 ≤ requests.length) :
    ¬ RunsCorrect (requestStreamMachine : CallMachine _ Req Resp) requests
      (RequestStreamCall.start RequestStreamCall.create requests) := by
  cases requests with
  | nil => simp at long
  | cons request rest =>
      have writes : ∀ call : Call RequestStreamCall.NextStep Req Resp,
          call.callStatus = .called → call.nextStep = .writeRequest →
          requestStreamMachine.onCompletionQueueEvent call true =
            call.writeNext .callWritesDone := by
        intro call called step
        simp [requestStreamMachine, RequestStreamCall.onCompletionQueueEvent, called, step]
      exact not_runsCorrect_of_long long writes rfl

theorem RequestResponseStreamCall.not_runsCorrect [Inhabited Resp]
    (long : 2 ^ 32 ≤ requests.length) :
    ¬ RunsCorrect (requestResponseStreamMachine : CallMachine _ Req Resp) requests
      (RequestResponseStreamCall.start RequestResponseStreamCall.create requests) := by
  cases requests with
  | nil => simp at long
  | cons request rest =>
      have writes : ∀ call : Call RequestResponseStreamCall.NextStep Req Resp,
          call.callStatus = .called → call.nextStep = .writeRequest →
          requestResponseStreamMachine.onCompletionQueueEvent call true =
            call.writeNext .callWritesDone := by
        intro call called step
        simp [requestResponseStreamMachine, RequestResponseStreamCall.onCompletionQueueEvent,
          called, step]
      exact not_runsCorrect_of_long long writes rfl

/-- Unary and response-streaming calls are correct in every run; the calls that
stream requests are, exactly when the request index can hold their number. -/
theorem runsCorrect_iff (Resp : Type*) [Inhabited Resp] (requests : List Req)
    (request : Req) :
    RunsCorrect (unaryMachine : CallMachine _ Req Resp) [request]
        (UnaryCall.start UnaryCall.create request) ∧
      RunsCorrect (responseStreamMachine : CallMachine _ Req Resp) [request]
        (ResponseStreamCall.start ResponseStreamCall.create request) ∧
      (RunsCorrect (requestStreamMachine : CallMachine _ Req Resp) requests
        (RequestStreamCall.start RequestStreamCall.create requests) ↔
          requests.length < 2 ^ 32) ∧
      (RunsCorrect (requestResponseStreamMachine : CallMachine _ Req Resp) requests
        (RequestResponseStreamCall.start RequestResponseStreamCall.create requests) ↔
          requests.length < 2 ^ 32) := by
  refine ⟨?_, ?_, ⟨?_, ?_⟩, ⟨?_, ?_⟩⟩
  · exact UnaryCall.refines.runsCorrect UnaryCall.started
  · exact ResponseStreamCall.refines.runsCorrect ResponseStreamCall.started
  · intro correct
    by_contra long
    exact RequestStreamCall.not_runsCorrect (Nat.le_of_not_lt long) correct
  · intro fits
    exact (RequestStreamCall.refines fits).runsCorrect RequestStreamCall.started
  · intro correct
    by_contra long
    exact RequestResponseStreamCall.not_runsCorrect (Nat.le_of_not_lt long) correct
  · intro fits
    exact (RequestResponseStreamCall.refines fits).runsCorrect
      RequestResponseStreamCall.started

/-- A stream of 2^32 requests is not written as it should be. -/
theorem not_runsCorrect_wrapped :
    ¬ RunsCorrect (requestStreamMachine : CallMachine _ Unit Unit)
      (List.replicate (2 ^ 32) ())
      (RequestStreamCall.start RequestStreamCall.create (List.replicate (2 ^ 32) ())) :=
  RequestStreamCall.not_runsCorrect (Nat.le_of_eq List.length_replicate.symm)

end SpotSdk.Client
