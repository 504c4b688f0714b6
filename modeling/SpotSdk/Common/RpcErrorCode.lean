import SpotSdk.Common.Status

/-!
# Conversion of a gRPC status

The conversion tests codes and substrings in a fixed order. Substring tests go
through `std::string::find`, whose result is a position or `npos`.
-/

namespace SpotSdk.Common

inductive GrpcStatusCode
  | ok
  | cancelled
  | unknown
  | invalidArgument
  | deadlineExceeded
  | notFound
  | alreadyExists
  | permissionDenied
  | resourceExhausted
  | failedPrecondition
  | aborted
  | outOfRange
  | unimplemented
  | internal
  | unavailable
  | dataLoss
  | unauthenticated
  deriving DecidableEq, Repr

/-- The number `std::to_string` prints for a code. -/
def GrpcStatusCode.number : GrpcStatusCode → Nat
  | ok => 0
  | cancelled => 1
  | unknown => 2
  | invalidArgument => 3
  | deadlineExceeded => 4
  | notFound => 5
  | alreadyExists => 6
  | permissionDenied => 7
  | resourceExhausted => 8
  | failedPrecondition => 9
  | aborted => 10
  | outOfRange => 11
  | unimplemented => 12
  | internal => 13
  | unavailable => 14
  | dataLoss => 15
  | unauthenticated => 16

/-- `grpc::Status`. -/
structure GrpcStatus where
  errorCode : GrpcStatusCode := .ok
  errorMessage : String := ""
  errorDetails : String := ""
  deriving DecidableEq, Repr

def GrpcStatus.ok (status : GrpcStatus) : Bool :=
  status.errorCode == .ok

def rpcErrorCategory : ErrorCategory := ⟨"RPCErrorCode", [0]⟩

inductive RPCErrorCode
  | success
  | clientCancelledOperationError
  | invalidAppTokenError
  | invalidClientCertificateError
  | nonexistentAuthorityError
  | permissionDeniedError
  | proxyConnectionError
  | responseTooLargeError
  | serviceUnavailableError
  | serviceFailedDuringExecutionError
  | timedOutError
  | unableToConnectToRobotError
  | unauthenticatedError
  | unknownDnsNameError
  | unimplementedError
  | transientFailureError
  | tooManyRequestsError
  | notFoundError
  | retryableUnavailableError
  deriving DecidableEq, Repr

def RPCErrorCode.number : RPCErrorCode → Int
  | success => 0
  | clientCancelledOperationError => 1
  | invalidAppTokenError => 2
  | invalidClientCertificateError => 3
  | nonexistentAuthorityError => 4
  | permissionDeniedError => 5
  | proxyConnectionError => 6
  | responseTooLargeError => 7
  | serviceUnavailableError => 8
  | serviceFailedDuringExecutionError => 9
  | timedOutError => 10
  | unableToConnectToRobotError => 11
  | unauthenticatedError => 12
  | unknownDnsNameError => 13
  | unimplementedError => 14
  | transientFailureError => 15
  | tooManyRequestsError => 16
  | notFoundError => 17
  | retryableUnavailableError => 18

def RPCErrorCode.code (code : RPCErrorCode) : ErrorCode :=
  ⟨rpcErrorCategory, code.number⟩

/-- Only the first enumerator converts to a true status. -/
theorem rpcStatus_ok_iff (code : RPCErrorCode) (message : String) :
    (Status.mk code.code message).ok = true ↔ code = .success := by
  cases code <;> simp [Status.ok, RPCErrorCode.code, RPCErrorCode.number, rpcErrorCategory]

inductive RetryableRPCCondition
  | retryable
  | persistent
  deriving DecidableEq, Repr

/-- The codes that the category calls equivalent to a condition. -/
def RetryableRPCCondition.codes : RetryableRPCCondition → List RPCErrorCode
  | retryable =>
      [.proxyConnectionError, .responseTooLargeError, .serviceUnavailableError,
        .serviceFailedDuringExecutionError, .timedOutError, .unableToConnectToRobotError,
        .transientFailureError, .tooManyRequestsError, .retryableUnavailableError]
  | persistent =>
      [.clientCancelledOperationError, .invalidAppTokenError, .invalidClientCertificateError,
        .nonexistentAuthorityError, .permissionDeniedError, .unauthenticatedError,
        .unknownDnsNameError, .unimplementedError, .notFoundError]

/-- `operator==` of a code and a condition; no other category knows these conditions. -/
def ErrorCode.meets (code : ErrorCode) (condition : RetryableRPCCondition) : Bool :=
  (condition.codes.map RPCErrorCode.code).contains code

/-- Every failure of an RPC can be retried, or is persistent, but not both. -/
theorem retryable_eq_not_persistent (code : RPCErrorCode) (failed : code ≠ .success) :
    code.code.meets .retryable = !code.code.meets .persistent := by
  cases code with
  | success => exact absurd rfl failed
  | _ => rfl

/-- The position of the first match of `needle` at or after position `i`. -/
def findFrom (needle : List Char) : Nat → List Char → Option Nat
  | i, [] => if needle = [] then some i else none
  | i, c :: cs => if needle.isPrefixOf (c :: cs) then some i else findFrom needle (i + 1) cs

/-- `std::string::find`, with `none` for `npos`. -/
def find (text needle : String) : Option Nat :=
  findFrom needle.toList 0 text.toList

/-- `find(...) != std::string::npos`. -/
def contains (text needle : String) : Bool :=
  (find text needle).isSome

/-- The tests made for a cancelled call, on its details. -/
def convertCancelled (details : String) : RPCErrorCode × String :=
  if contains details "401" then
    (.unauthenticatedError, "The user needs to authenticate to get a user token.")
  else if contains details "403" then
    (.invalidAppTokenError, "The provided app token is invalid.")
  else if contains details "404" then
    (.notFoundError, "The backend system could not be found.")
  else if contains details "429" then
    (.tooManyRequestsError,
      "The server is not ready to handle the request due to rate limiting.")
  else if contains details "502" then
    (.serviceUnavailableError, "The proxy could not find the (possibly unregistered) service.")
  else if contains details "504" then
    (.timedOutError, "The remote procedure call did not terminate within the allotted time.")
  else
    (.clientCancelledOperationError, "The user cancelled the rpc request.")

/-- The tests made for an unavailable peer, on message and details. -/
def convertUnavailable (message details : String) : RPCErrorCode × String :=
  if contains message "Socket closed" || contains message "Connection reset by peer" then
    (.retryableUnavailableError, "Socket closed or connection reset by peer.")
  else if contains details "502" then
    (.serviceUnavailableError, "Service is unavailable.")
  else if contains details "429" then
    (.tooManyRequestsError,
      "The server is not ready to handle the request due to rate limiting.")
  else
    (.unableToConnectToRobotError, "The robot may be offline or unavailable")

/-- The text of the two unknown error cases. -/
def unknownErrorMessage (code : GrpcStatusCode) (message : String) : String :=
  toString code.number ++ "|" ++ message ++ "|"

/-- The tests made on a non-empty message when no code test matched. -/
def convertMessage (code : GrpcStatusCode) (message : String) : RPCErrorCode × String :=
  if contains message "is not in peer certificate" then
    (.nonexistentAuthorityError,
      "The app token's authority field names a nonexistent service.")
  else if contains message "Failed to connect to remote host" ||
      contains message "Failed to create subchannel" then
    (.proxyConnectionError, "The proxy on the robot could not be reached.")
  else if contains message "Exception calling application" then
    (.serviceFailedDuringExecutionError, "The service encountered an unexpected failure.")
  else if contains message "Handshake failed" then
    (.invalidClientCertificateError, "The provided client certificate is invalid.")
  else if contains message "Name resolution failure" then
    (.unknownDnsNameError, "The system is unable to translate the domain name.")
  else if contains message "channel is in state TRANSIENT_FAILURE" then
    (.transientFailureError,
      "The channel is in state TRANSIENT_FAILURE, often caused by a connection failure.")
  else if contains message "Connect Failed" then
    (.unableToConnectToRobotError, "The robot may be offline, connect failed.")
  else
    (.unimplementedError, unknownErrorMessage code message)

/-- The branch taken for a status that is not ok. -/
def convertFailure (status : GrpcStatus) : RPCErrorCode × String :=
  if status.errorCode = .cancelled then
    convertCancelled status.errorDetails
  else if status.errorCode = .deadlineExceeded then
    (.timedOutError, "The remote procedure call did not terminate within the allotted time.")
  else if status.errorCode = .unimplemented then
    (.unimplementedError,
      "The API does not recognize the request and is unable to complete the request.")
  else if status.errorCode = .permissionDenied then
    (.permissionDeniedError, "The rpc request was denied access.")
  -- The source uses the position itself as the condition: only position 0 is false.
  else if status.errorCode = .resourceExhausted ∧
      find status.errorMessage "Received message larger than max" ≠ some 0 then
    (.responseTooLargeError, "The rpc response was larger than allowed max size.")
  else if status.errorCode = .unauthenticated then
    (.unauthenticatedError, "The user needs to authenticate to get a user token.")
  else if status.errorCode = .unavailable then
    convertUnavailable status.errorMessage status.errorDetails
  else if status.errorMessage ≠ "" then
    convertMessage status.errorCode status.errorMessage
  else
    (.unimplementedError, unknownErrorMessage status.errorCode status.errorMessage)

/-- `ConvertGRPCStatus`. -/
def convertGRPCStatus (status : GrpcStatus) : Status :=
  if status.ok then ⟨RPCErrorCode.success.code, ""⟩
  else ⟨(convertFailure status).1.code, (convertFailure status).2⟩

theorem convertCancelled_ne_success (details : String) :
    (convertCancelled details).1 ≠ .success := by
  unfold convertCancelled
  repeat' split
  all_goals simp

theorem convertUnavailable_ne_success (message details : String) :
    (convertUnavailable message details).1 ≠ .success := by
  unfold convertUnavailable
  repeat' split
  all_goals simp

theorem convertMessage_ne_success (code : GrpcStatusCode) (message : String) :
    (convertMessage code message).1 ≠ .success := by
  unfold convertMessage
  repeat' split
  all_goals simp

/-- No failure is converted to the success code. -/
theorem convertFailure_ne_success (status : GrpcStatus) :
    (convertFailure status).1 ≠ .success := by
  unfold convertFailure
  repeat' split
  · exact convertCancelled_ne_success _
  · exact RPCErrorCode.noConfusion
  · exact RPCErrorCode.noConfusion
  · exact RPCErrorCode.noConfusion
  · exact RPCErrorCode.noConfusion
  · exact RPCErrorCode.noConfusion
  · exact convertUnavailable_ne_success _ _
  · exact convertMessage_ne_success _ _
  · exact RPCErrorCode.noConfusion

/-- Every converted status is of the RPC category. -/
theorem convertGRPCStatus_category (status : GrpcStatus) :
    (convertGRPCStatus status).code.category = rpcErrorCategory := by
  unfold convertGRPCStatus
  split <;> rfl

/-- The converted status is true exactly for a gRPC status that is ok. -/
@[simp] theorem convertGRPCStatus_ok (status : GrpcStatus) :
    (convertGRPCStatus status).ok = status.ok := by
  unfold convertGRPCStatus
  by_cases h : status.ok = true
  · rw [if_pos h, h]
    exact (rpcStatus_ok_iff _ _).mpr rfl
  · rw [if_neg h, Bool.eq_false_iff.mpr h, Bool.eq_false_iff, ne_eq, rpcStatus_ok_iff]
    exact convertFailure_ne_success status

end SpotSdk.Common
