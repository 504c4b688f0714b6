import SpotSdk.Common.RpcErrorCode
import SpotSdk.Common.Status

/-!
# The call state machines of the message pump

Each kind of RPC is driven by `OnCompletionQueueEvent`, which the pump calls for
every event of the call, and may be given up at any time by `Cancel`. A member
function returns the call it leaves and the actions it takes, in order.
-/

namespace SpotSdk.Client

open SpotSdk.Common

inductive CallStatus
  | notStarted
  | called
  | cancelled
  | completed
  deriving DecidableEq, Repr

/-- What `m_promise` is: the one the call was built with, the one the caller
handed over, or moved from. -/
inductive PromiseSlot
  | unset
  | held
  | moved
  deriving DecidableEq, Repr

/-- The operations a call issues on gRPC. A request is absent when `m_requests`
was read out of its range. -/
inductive GrpcOp (Req : Type*)
  | startCall
  | write (request : Option Req)
  | writesDone
  | read
  | finish
  deriving DecidableEq, Repr

/-- What is seen of a call from outside: the events it gets, the operations it
issues, the uses of its callback and of its promise. -/
inductive CallAction (Req Resp : Type*)
  | event (op : GrpcOp Req) (success : Bool)
  | issue (op : GrpcOp Req)
  | setValue (promise : PromiseSlot) (status : Status)
  | callback (requests : List Req) (responses : List Resp) (status : GrpcStatus)
      (promise : PromiseSlot)

/-- The members of the four call classes. A class with one `m_request` keeps it as
the only entry of `requests`; `response` is that of the classes with one response,
`lastResponse` and `responses` are those of the reading classes. -/
structure Call (Step Req Resp : Type*) where
  callStatus : CallStatus := .notStarted
  requests : List Req := []
  nextRequestToWrite : UInt32 := 0
  response : Resp
  lastResponse : Resp
  responses : List Resp := []
  status : GrpcStatus := {}
  nextStep : Step
  callback : Bool := false
  promise : PromiseSlot := .unset

/-- What a member function leaves, what it does, and for an event handler whether
the pump may delete the call. -/
abbrev Handled (Step Req Resp : Type*) :=
  Call Step Req Resp × List (CallAction Req Resp) × Bool

namespace Call

variable {Step Req Resp : Type*}

/-- The constructors: a call with its first step, and no request yet. -/
def create [Inhabited Resp] (first : Step) : Call Step Req Resp :=
  { response := default, lastResponse := default, nextStep := first }

/-- `CancelHelper`, with the promise moved into its argument in every case. -/
def cancel (call : Call Step Req Resp) :
    Call Step Req Resp × List (CallAction Req Resp) :=
  let moved := { call with promise := .moved }
  match call.callStatus with
  | .notStarted =>
      ({ moved with callStatus := .cancelled, callback := false },
        [.setValue call.promise ⟨RPCErrorCode.clientCancelledOperationError.code,
          "Canceled RPC is not started yet"⟩])
  | .called =>
      ({ moved with callStatus := .cancelled, callback := false },
        [.setValue call.promise ⟨RPCErrorCode.clientCancelledOperationError.code,
          "RPC is canceled"⟩])
  | .cancelled => (moved, [])
  | .completed => (moved, [])

/-- The common end of the `Start` functions: the caller's requests, callback and
promise are taken over and the first operation is issued. -/
def begin (call : Call Step Req Resp) (requests : List Req) (first : GrpcOp Req)
    (step : Step) : Call Step Req Resp × List (CallAction Req Resp) :=
  ({ call with
      requests := requests, callback := true, promise := .held, nextStep := step,
      callStatus := .called },
    [.issue first])

/-- What gRPC stores in the call's members before it raises the event of an
operation. -/
def fill (call : Call Step Req Resp) (op : GrpcOp Req) (success : Bool) (message : Resp)
    (status : GrpcStatus) : Call Step Req Resp :=
  match op with
  | .read => if success then { call with lastResponse := message } else call
  | .finish => { call with status := status, response := message }
  | _ => call

/-- Issue one operation, go on to a step and wait for the next event. -/
def proceed (call : Call Step Req Resp) (op : GrpcOp Req) (step : Step) :
    Handled Step Req Resp :=
  ({ call with nextStep := step }, [.issue op], false)

/-- The write branch: the index wraps as an unsigned int and is compared with the
number of requests after it is raised. -/
def writeNext (call : Call Step Req Resp) (done : Step) : Handled Step Req Resp :=
  let request := call.requests[call.nextRequestToWrite.toNat]?
  let next := call.nextRequestToWrite + 1
  { call with nextRequestToWrite := next }.proceed (.write request)
    (if next.toNat = call.requests.length then done else call.nextStep)

/-- Keep the response that was read, and ask for another. -/
def readNext (call : Call Step Req Resp) (step : Step) : Handled Step Req Resp :=
  { call with responses := call.responses ++ [call.lastResponse] }.proceed .read step

/-- Hand the responses, the status and the promise to the callback. -/
def complete (call : Call Step Req Resp) (responses : List Resp) :
    Handled Step Req Resp :=
  ({ call with callStatus := .completed, promise := .moved },
    [.callback call.requests responses call.status call.promise], true)

/-- The last step of the streaming calls, which test the callback first. -/
def completeIfSet (call : Call Step Req Resp) (responses : List Resp) :
    Handled Step Req Resp :=
  if call.callback then call.complete responses else (call, [], true)

end Call

variable {Req Resp : Type*}

namespace RequestStreamCall

inductive NextStep
  | writeRequest
  | callWritesDone
  | callFinish
  | callCallback
  deriving DecidableEq, Repr

def create [Inhabited Resp] : Call NextStep Req Resp :=
  Call.create .writeRequest

/-- `RequestStreamCall::Start`. A precondition that fails ends the program. -/
def start (call : Call NextStep Req Resp) (requests : List Req) :
    Option (Call NextStep Req Resp × List (CallAction Req Resp)) :=
  if requests.isEmpty then none
  else if call.callStatus ≠ .notStarted then none
  else some (call.begin requests .startCall .writeRequest)

def onCompletionQueueEvent (call : Call NextStep Req Resp) (success : Bool) :
    Handled NextStep Req Resp :=
  if call.callStatus = .cancelled then (call, [], true)
  else
    match call.nextStep with
    | .writeRequest =>
        if success then call.writeNext .callWritesDone
        else call.proceed .finish .callCallback
    | .callWritesDone => call.proceed .writesDone .callFinish
    | .callFinish => call.proceed .finish .callCallback
    | .callCallback => call.completeIfSet [call.response]

end RequestStreamCall

namespace ResponseStreamCall

inductive NextStep
  | startRead
  | continueReadOrCallFinish
  | callCallback
  deriving DecidableEq, Repr

def create [Inhabited Resp] : Call NextStep Req Resp :=
  Call.create .startRead

/-- `ResponseStreamCall::Start`. -/
def start (call : Call NextStep Req Resp) (request : Req) :
    Option (Call NextStep Req Resp × List (CallAction Req Resp)) :=
  if call.callStatus ≠ .notStarted then none
  else some (call.begin [request] .startCall .startRead)

def onCompletionQueueEvent (call : Call NextStep Req Resp) (success : Bool) :
    Handled NextStep Req Resp :=
  if call.callStatus = .cancelled then (call, [], true)
  else
    match call.nextStep with
    | .startRead =>
        if success then call.proceed .read .continueReadOrCallFinish
        else call.proceed .finish .callCallback
    | .continueReadOrCallFinish =>
        if success then call.readNext .continueReadOrCallFinish
        else call.proceed .finish .callCallback
    | .callCallback => call.completeIfSet call.responses

end ResponseStreamCall

namespace RequestResponseStreamCall

inductive NextStep
  | writeRequest
  | callWritesDone
  | startRead
  | continueReadOrCallFinish
  | callCallback
  deriving DecidableEq, Repr

def create [Inhabited Resp] : Call NextStep Req Resp :=
  Call.create .writeRequest

/-- `RequestResponseStreamCall::Start`, which also resets the index. -/
def start (call : Call NextStep Req Resp) (requests : List Req) :
    Option (Call NextStep Req Resp × List (CallAction Req Resp)) :=
  if requests.isEmpty then none
  else if call.callStatus ≠ .notStarted then none
  else some ({ call with nextRequestToWrite := 0 }.begin requests .startCall .writeRequest)

def onCompletionQueueEvent (call : Call NextStep Req Resp) (success : Bool) :
    Handled NextStep Req Resp :=
  if call.callStatus = .cancelled then (call, [], true)
  else
    match call.nextStep with
    | .writeRequest =>
        if success then call.writeNext .callWritesDone
        else call.proceed .finish .callCallback
    | .callWritesDone => call.proceed .writesDone .startRead
    -- The result of WritesDone is not looked at: the first read fails in its turn.
    | .startRead => call.proceed .read .continueReadOrCallFinish
    | .continueReadOrCallFinish =>
        if success then call.readNext .continueReadOrCallFinish
        else call.proceed .finish .callCallback
    | .callCallback => call.completeIfSet call.responses

end RequestResponseStreamCall

namespace UnaryCall

def create [Inhabited Resp] : Call Unit Req Resp :=
  Call.create ()

/-- `UnaryCall::Start`: the reader of the call is asked for the answer at once. -/
def start (call : Call Unit Req Resp) (request : Req) :
    Option (Call Unit Req Resp × List (CallAction Req Resp)) :=
  if call.callStatus ≠ .notStarted then none
  else some (call.begin [request] .finish ())

/-- `UnaryCall::OnCompletionQueueEvent`, whose `success` is not used. -/
def onCompletionQueueEvent (call : Call Unit Req Resp) (_success : Bool) :
    Handled Unit Req Resp :=
  if call.callStatus = .cancelled then (call, [], true)
  else call.complete [call.response]

end UnaryCall

end SpotSdk.Client
