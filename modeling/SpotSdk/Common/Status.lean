import Mathlib.Data.Int.Notation

/-!
# Status values of the client library

A status is an error code of some category with a message. It converts to true
exactly when its category calls the code equivalent to `SuccessCondition`.
-/

namespace SpotSdk.Common

/-- An error category: its name and the values it calls a success. -/
structure ErrorCategory where
  name : String
  successValues : List Int
  deriving DecidableEq, Repr

/-- `std::error_code`: a value read in a category. -/
structure ErrorCode where
  category : ErrorCategory
  value : Int
  deriving DecidableEq, Repr

/-- `bosdyn::common::Status`. -/
structure Status where
  code : ErrorCode
  message : String := ""
  deriving DecidableEq, Repr

/-- `Status::operator bool`. -/
def Status.ok (status : Status) : Bool :=
  status.code.category.successValues.contains status.code.value

/-- `Status::Chain(message)`, which keeps the code. -/
def Status.chain (status : Status) (message : String) : Status :=
  { status with message := message ++ ": " ++ status.message }

/-- `bosdyn::client::Result`: a status and a response that is set in any case. -/
structure Result (α : Type*) where
  status : Status
  response : α
  deriving DecidableEq, Repr

/-- `Result::operator bool` is that of its status. -/
def Result.ok {α : Type*} (result : Result α) : Bool :=
  result.status.ok

/-- The category a default-constructed code has; it calls nothing a success. -/
def systemCategory : ErrorCategory := ⟨"system", []⟩

/-- A default-constructed status. -/
def Status.unset : Status := ⟨⟨systemCategory, 0⟩, ""⟩

def sdkErrorCategory : ErrorCategory := ⟨"SDKErrorCode", [0]⟩

inductive SDKErrorCode
  | success
  | genericSDKError
  deriving DecidableEq, Repr

def SDKErrorCode.code : SDKErrorCode → ErrorCode
  | success => ⟨sdkErrorCategory, 0⟩
  | genericSDKError => ⟨sdkErrorCategory, 3⟩

/-- The category of the codes in a response header. -/
def commonErrorCategory : ErrorCategory := ⟨"CommonError_Code", [1]⟩

@[simp] theorem sdk_success_ok : Status.ok ⟨SDKErrorCode.success.code, ""⟩ = true := rfl

end SpotSdk.Common
