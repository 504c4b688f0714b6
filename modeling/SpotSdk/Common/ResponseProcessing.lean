import SpotSdk.Common.RpcErrorCode

/-!
# Processing of a completed response

Every completion handler first converts the gRPC status, then runs the response
processors on the header, and only then looks at the status of the response.
-/

namespace SpotSdk.Common

/-- The error of a response header. -/
structure CommonError where
  code : Int := 0
  message : String := ""
  deriving DecidableEq, Repr

structure ResponseHeader where
  error : CommonError := {}
  deriving DecidableEq, Repr

/-- `ResponseProcessor::Process`, over the messages `M` of a service. -/
abbrev ResponseProcessor (M : Type*) := GrpcStatus → ResponseHeader → M → Status

variable {M : Type*}

/-- `CommonResponseProcessor::Process`. -/
def commonResponseProcessor : ResponseProcessor M := fun _ header _ =>
  ⟨⟨commonErrorCategory, header.error.code⟩, header.error.message⟩

/-- The loop of `ResponseProcessorChain::Process`, with the status so far. -/
def processFrom (status : GrpcStatus) (header : ResponseHeader) (full : M) :
    Status → List (ResponseProcessor M) → Status
  | ret, [] => ret
  | _, processor :: rest =>
      let ret := processor status header full
      if ret.ok then processFrom status header full ret rest else ret

/-- `ResponseProcessorChain::Process`. -/
def processChain (chain : List (ResponseProcessor M)) (status : GrpcStatus)
    (header : ResponseHeader) (full : M) : Status :=
  processFrom status header full ⟨SDKErrorCode.success.code, ""⟩ chain

/-- `ServiceClient::ProcessResponseAndGetFinalStatus`. -/
def processResponseAndGetFinalStatus (chain : List (ResponseProcessor M))
    (status : GrpcStatus) (header : ResponseHeader) (full : M)
    (responseStatus : ErrorCode) : Status :=
  let ret := convertGRPCStatus status
  if !ret.ok then ret
  else
    let ret := processChain chain status header full
    if !ret.ok then ret
    else ⟨responseStatus, ""⟩

/-- The loop of `ProcessResponseVectorAndGetFinalStatus`, with the status so far. -/
def processVectorAndStatusFrom (chain : List (ResponseProcessor M)) (status : GrpcStatus)
    (header : M → ResponseHeader) (code : M → ErrorCode) : Status → List M → Status
  | ret, [] => ret
  | _, response :: rest =>
      let ret := processChain chain status (header response) response
      if !ret.ok then ret
      else
        let ret : Status := ⟨code response, ""⟩
        if !ret.ok then ret else processVectorAndStatusFrom chain status header code ret rest

/-- `ServiceClient::ProcessResponseVectorAndGetFinalStatus`. -/
def processResponseVectorAndGetFinalStatus (chain : List (ResponseProcessor M))
    (status : GrpcStatus) (header : M → ResponseHeader) (code : M → ErrorCode)
    (responses : List M) : Status :=
  let ret := convertGRPCStatus status
  if !ret.ok then ret else processVectorAndStatusFrom chain status header code ret responses

/-- The loop of `ProcessResponseVector`, with the status so far. -/
def processVectorFrom (chain : List (ResponseProcessor M)) (status : GrpcStatus)
    (header : M → ResponseHeader) : Status → List M → Status
  | ret, [] => ret
  | _, response :: rest =>
      let ret := processChain chain status (header response) response
      if !ret.ok then ret else processVectorFrom chain status header ret rest

/-- `ServiceClient::ProcessResponseVector`. -/
def processResponseVector (chain : List (ResponseProcessor M)) (status : GrpcStatus)
    (header : M → ResponseHeader) (responses : List M) : Status :=
  let ret := convertGRPCStatus status
  if !ret.ok then ret else processVectorFrom chain status header ret responses

/-- A final success needs an ok gRPC status, accepting processors and a
successful response status. -/
theorem finalStatus_ok_iff (chain : List (ResponseProcessor M)) (status : GrpcStatus)
    (header : ResponseHeader) (full : M) (responseStatus : ErrorCode) :
    (processResponseAndGetFinalStatus chain status header full responseStatus).ok = true ↔
      status.ok = true ∧ (processChain chain status header full).ok = true ∧
        (Status.mk responseStatus "").ok = true := by
  unfold processResponseAndGetFinalStatus
  cases hs : status.ok with
  | false => simp [hs]
  | true =>
      cases hp : (processChain chain status header full).ok with
      | false => simp [hs, hp]
      | true => simp [hs, hp]

/-- A failed RPC is reported as its converted gRPC status. -/
theorem finalStatus_of_failed (chain : List (ResponseProcessor M)) {status : GrpcStatus}
    (h : status.ok = false) (header : ResponseHeader) (full : M)
    (responseStatus : ErrorCode) :
    processResponseAndGetFinalStatus chain status header full responseStatus =
      convertGRPCStatus status := by
  simp [processResponseAndGetFinalStatus, h]

theorem vectorFinalStatus_of_failed (chain : List (ResponseProcessor M)) {status : GrpcStatus}
    (h : status.ok = false) (header : M → ResponseHeader) (code : M → ErrorCode)
    (responses : List M) :
    processResponseVectorAndGetFinalStatus chain status header code responses =
      convertGRPCStatus status := by
  simp [processResponseVectorAndGetFinalStatus, h]

theorem vectorStatus_of_failed (chain : List (ResponseProcessor M)) {status : GrpcStatus}
    (h : status.ok = false) (header : M → ResponseHeader) (responses : List M) :
    processResponseVector chain status header responses = convertGRPCStatus status := by
  simp [processResponseVector, h]

/-- How a unary call ends: it is given up before it is sent, the RPC fails, or the
robot answers. -/
inductive RpcOutcome (M : Type*)
  | notSent (status : Status) (h : status.ok = false)
  | failed (status : GrpcStatus) (h : status.ok = false)
  | answered (response : M)
  deriving DecidableEq

namespace RpcOutcome

/-- The robot's answer to this very call was received. -/
def Answered : RpcOutcome M → Prop
  | answered _ => True
  | _ => False

instance (outcome : RpcOutcome M) : Decidable outcome.Answered := by
  cases outcome <;> unfold Answered <;> infer_instance

/-- What the promise of the call is given. Without an answer the response keeps its
default value. -/
def result [Inhabited M] (chain : List (ResponseProcessor M)) (header : M → ResponseHeader)
    (code : M → ErrorCode) : RpcOutcome M → Result M
  | notSent status _ => ⟨status, default⟩
  | failed status _ =>
      ⟨processResponseAndGetFinalStatus chain status (header default) default (code default),
        default⟩
  | answered response =>
      ⟨processResponseAndGetFinalStatus chain {} (header response) response (code response),
        response⟩

variable [Inhabited M] {chain : List (ResponseProcessor M)} {header : M → ResponseHeader}
  {code : M → ErrorCode} {outcome : RpcOutcome M}

/-- A success means that the robot answered. -/
theorem answered_of_ok (h : (outcome.result chain header code).ok = true) :
    outcome.Answered := by
  cases outcome with
  | notSent status hs =>
      exact absurd h (by simp [result, Result.ok, hs])
  | failed status hs =>
      have hfinal := (finalStatus_ok_iff chain status _ _ _).mp h
      rw [hs] at hfinal
      exact absurd hfinal.1 (by decide)
  | answered response => trivial

end RpcOutcome

end SpotSdk.Common
