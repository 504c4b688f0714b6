import SpotSdk.Common.ResponseProcessing
import SpotSdk.Lease.LeaseWallet

/-!
# Completions of the lease client

The client reports a completed call of the lease service to the caller and enters
its effect into the wallet by the resource name of the request.
-/

namespace SpotSdk.Client

open Common

structure AcquireLeaseRequest where
  resource : String := ""
  deriving DecidableEq, Repr

structure AcquireLeaseResponse where
  header : ResponseHeader := {}
  status : Int := 0
  lease : LeaseProto := {}
  deriving DecidableEq, Repr

structure TakeLeaseRequest where
  resource : String := ""
  deriving DecidableEq, Repr

structure TakeLeaseResponse where
  header : ResponseHeader := {}
  status : Int := 0
  lease : LeaseProto := {}
  deriving DecidableEq, Repr

structure ReturnLeaseRequest where
  lease : LeaseProto := {}
  deriving DecidableEq, Repr

structure ReturnLeaseResponse where
  header : ResponseHeader := {}
  status : Int := 0
  deriving DecidableEq, Repr

def acquireLeaseStatusCategory : ErrorCategory := ⟨"AcquireLeaseResponse_Status", [1]⟩

def takeLeaseStatusCategory : ErrorCategory := ⟨"TakeLeaseResponse_Status", [1]⟩

def returnLeaseStatusCategory : ErrorCategory := ⟨"ReturnLeaseResponse_Status", [1]⟩

/-- The messages the response processors of the client see. -/
inductive LeaseServiceMessage
  | acquireLease (response : AcquireLeaseResponse)
  | takeLease (response : TakeLeaseResponse)
  | returnLease (response : ReturnLeaseResponse)
  deriving DecidableEq, Repr

abbrev LeaseProcessorChain := List (ResponseProcessor LeaseServiceMessage)

/-- Adding a granted lease under the resource of the request. -/
def storeGranted (wallet : Option LeaseWallet) (retStatus : Status) (resource : String)
    (lease : LeaseProto) : Option LeaseWallet :=
  match wallet with
  | none => none
  | some wallet =>
      if retStatus.ok then some (wallet.addLease resource (Lease.ofProto lease) .default)
      else some wallet

def onAcquireLeaseComplete (chain : LeaseProcessorChain) (wallet : Option LeaseWallet)
    (request : AcquireLeaseRequest) (response : AcquireLeaseResponse) (status : GrpcStatus) :
    Option LeaseWallet × Result AcquireLeaseResponse :=
  let retStatus := processResponseAndGetFinalStatus chain status response.header
    (.acquireLease response) ⟨acquireLeaseStatusCategory, response.status⟩
  (storeGranted wallet retStatus request.resource response.lease, ⟨retStatus, response⟩)

def onTakeLeaseComplete (chain : LeaseProcessorChain) (wallet : Option LeaseWallet)
    (request : TakeLeaseRequest) (response : TakeLeaseResponse) (status : GrpcStatus) :
    Option LeaseWallet × Result TakeLeaseResponse :=
  let retStatus := processResponseAndGetFinalStatus chain status response.header
    (.takeLease response) ⟨takeLeaseStatusCategory, response.status⟩
  (storeGranted wallet retStatus request.resource response.lease, ⟨retStatus, response⟩)

/-- The return handler uses the wallet without asking whether there is one. -/
def onReturnLeaseComplete (chain : LeaseProcessorChain) (wallet : Option LeaseWallet)
    (request : ReturnLeaseRequest) (response : ReturnLeaseResponse) (status : GrpcStatus) :
    Option (LeaseWallet × Result ReturnLeaseResponse) :=
  let retStatus := processResponseAndGetFinalStatus chain status response.header
    (.returnLease response) ⟨returnLeaseStatusCategory, response.status⟩
  -- The entry is removed whatever the status says.
  wallet.map fun wallet => (wallet.removeLease request.lease.resource, ⟨retStatus, response⟩)

/-- A completed call: the request with what came back. -/
inductive LeaseCompletion
  | acquireLease (request : AcquireLeaseRequest) (response : AcquireLeaseResponse)
      (status : GrpcStatus)
  | takeLease (request : TakeLeaseRequest) (response : TakeLeaseResponse)
      (status : GrpcStatus)
  | returnLease (request : ReturnLeaseRequest) (response : ReturnLeaseResponse)
      (status : GrpcStatus)
  deriving DecidableEq, Repr

namespace LeaseCompletion

/-- The wallet after the completion has been handled. -/
def deliver (chain : LeaseProcessorChain) (wallet : Option LeaseWallet) :
    LeaseCompletion → Option LeaseWallet
  | acquireLease request response status =>
      (onAcquireLeaseComplete chain wallet request response status).1
  | takeLease request response status =>
      (onTakeLeaseComplete chain wallet request response status).1
  | returnLease request response status =>
      (onReturnLeaseComplete chain wallet request response status).map Prod.fst

end LeaseCompletion

/-- What a completion means for the wallet. -/
inductive WalletEffect
  | store (resource : String) (lease : LeaseProto)
  | drop (lease : LeaseProto)
  | keep
  deriving DecidableEq, Repr

def WalletEffect.apply (wallet : LeaseWallet) : WalletEffect → LeaseWallet
  | store resource lease => wallet.addLease resource (Lease.ofProto lease) .default
  | drop lease => wallet.removeLease lease.resource
  | keep => wallet

/-- The effect of a grant that was processed to a final status. -/
def WalletEffect.ofGrant (retStatus : Status) (resource : String) (lease : LeaseProto) :
    WalletEffect :=
  if retStatus.ok then store resource lease else keep

def LeaseCompletion.effect (chain : LeaseProcessorChain) : LeaseCompletion → WalletEffect
  | acquireLease request response status =>
      .ofGrant (processResponseAndGetFinalStatus chain status response.header
        (.acquireLease response) ⟨acquireLeaseStatusCategory, response.status⟩)
        request.resource response.lease
  | takeLease request response status =>
      .ofGrant (processResponseAndGetFinalStatus chain status response.header
        (.takeLease response) ⟨takeLeaseStatusCategory, response.status⟩)
        request.resource response.lease
  | returnLease request _ _ => .drop request.lease

theorem storeGranted_eq (wallet : LeaseWallet) (retStatus : Status) (resource : String)
    (lease : LeaseProto) :
    storeGranted (some wallet) retStatus resource lease =
      some ((WalletEffect.ofGrant retStatus resource lease).apply wallet) := by
  cases h : retStatus.ok <;> simp [storeGranted, WalletEffect.ofGrant, WalletEffect.apply, h]

/-- Handling a completion applies its effect to the wallet. -/
theorem LeaseCompletion.deliver_eq (chain : LeaseProcessorChain) (wallet : LeaseWallet)
    (completion : LeaseCompletion) :
    completion.deliver chain (some wallet) = some ((completion.effect chain).apply wallet) := by
  cases completion with
  | acquireLease request response status => exact storeGranted_eq _ _ _ _
  | takeLease request response status => exact storeGranted_eq _ _ _ _
  | returnLease request response status => rfl

end SpotSdk.Client
