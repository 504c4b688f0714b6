import SpotSdk.Common.ResponseProcessing
import SpotSdk.Lease.LeaseWallet

/-!
# Lease processing of responses

A response that reports how its lease fared is processed against the wallet before its
own status is looked at. The functions take the fields of the response that their
templates read.
-/

namespace SpotSdk.Client

open Common

def leaseUseResultStatusCategory : ErrorCategory := ⟨"LeaseUseResult_Status", [1]⟩

/-- The status made of a lease use status. -/
def leaseUseStatus (status : LeaseUseStatus) : Status :=
  ⟨⟨leaseUseResultStatusCategory, status.number⟩, ""⟩

/-- `ProcessResponseWithLeaseUseResult`. -/
def processResponseWithLeaseUseResult (leaseUseResult : Option LeaseUseResult)
    (wallet : LeaseWallet) : LeaseWallet × Status :=
  match leaseUseResult with
  | none => (wallet, leaseUseStatus .ok)
  | some result => ((wallet.onLeaseUseResult result).1, leaseUseStatus result.status)

/-- The loop of `ProcessResponseForMultipleLease`, with the status so far. -/
def processLeaseUseResults (wallet : LeaseWallet) :
    LeaseUseStatus → List LeaseUseResult → LeaseWallet × Status
  | status, [] => (wallet, leaseUseStatus status)
  | status, result :: rest =>
      processLeaseUseResults (wallet.onLeaseUseResult result).1
        (if result.status ≠ .ok then result.status else status) rest

/-- `ProcessResponseForMultipleLease`. -/
def processResponseForMultipleLease (leaseUseResults : List LeaseUseResult)
    (wallet : LeaseWallet) : LeaseWallet × Status :=
  processLeaseUseResults wallet .ok leaseUseResults

section FinalStatus

variable {M : Type*} (chain : List (ResponseProcessor M)) (status : GrpcStatus)
  (header : ResponseHeader) (full : M) (responseStatus : ErrorCode) (wallet : LeaseWallet)

/-- `ServiceClient::RunOnlyResponseProcessors`. -/
def runOnlyResponseProcessors : Status :=
  let ret := convertGRPCStatus status
  if !ret.ok then ret else processChain chain status header full

/-- The steps that the two lease variants share, over the lease processing. -/
def processResponseThenLease (processLease : LeaseWallet → LeaseWallet × Status) :
    LeaseWallet × Status :=
  let ret := runOnlyResponseProcessors chain status header full
  if !ret.ok then (wallet, ret)
  else
    let processed := processLease wallet
    if !processed.2.ok then processed else (processed.1, ⟨responseStatus, ""⟩)

/-- `ServiceClient::ProcessResponseWithLeaseAndGetFinalStatus`. -/
def processResponseWithLeaseAndGetFinalStatus (leaseUseResult : Option LeaseUseResult) :
    LeaseWallet × Status :=
  processResponseThenLease chain status header full responseStatus wallet
    (processResponseWithLeaseUseResult leaseUseResult)

/-- `ServiceClient::ProcessResponseWithMultiLeaseAndGetFinalStatus`. -/
def processResponseWithMultiLeaseAndGetFinalStatus (leaseUseResults : List LeaseUseResult) :
    LeaseWallet × Status :=
  processResponseThenLease chain status header full responseStatus wallet
    (processResponseForMultipleLease leaseUseResults)

variable {chain status header full responseStatus wallet}

/-- The processors accept a response of an RPC that ended well. -/
def Accepts (chain : List (ResponseProcessor M)) (status : GrpcStatus)
    (header : ResponseHeader) (full : M) : Prop :=
  status.ok = true ∧ (processChain chain status header full).ok = true

theorem runOnlyResponseProcessors_ok_iff :
    (runOnlyResponseProcessors chain status header full).ok = true ↔
      Accepts chain status header full := by
  unfold runOnlyResponseProcessors Accepts
  cases h : status.ok <;> simp [h]

/-- Without leases the final status is that of the processors or of the response. -/
theorem finalStatus_eq_runOnly :
    processResponseAndGetFinalStatus chain status header full responseStatus =
      if (runOnlyResponseProcessors chain status header full).ok then ⟨responseStatus, ""⟩
      else runOnlyResponseProcessors chain status header full := by
  unfold processResponseAndGetFinalStatus runOnlyResponseProcessors
  cases hs : status.ok with
  | false => simp [hs]
  | true => cases hp : (processChain chain status header full).ok <;> simp [hs, hp]

theorem processResponseThenLease_of_accepts (h : Accepts chain status header full)
    (processLease : LeaseWallet → LeaseWallet × Status) :
    processResponseThenLease chain status header full responseStatus wallet processLease =
      if (processLease wallet).2.ok then ((processLease wallet).1, ⟨responseStatus, ""⟩)
      else processLease wallet := by
  have hok := runOnlyResponseProcessors_ok_iff.mpr h
  unfold processResponseThenLease
  cases hp : (processLease wallet).2.ok <;> simp [hok, hp]

/-- A response that is not accepted leaves the wallet alone. -/
theorem processResponseThenLease_of_not_accepts (h : ¬ Accepts chain status header full)
    (processLease : LeaseWallet → LeaseWallet × Status) :
    processResponseThenLease chain status header full responseStatus wallet processLease =
      (wallet, runOnlyResponseProcessors chain status header full) := by
  have hok : (runOnlyResponseProcessors chain status header full).ok = false := by
    rw [Bool.eq_false_iff, ne_eq, runOnlyResponseProcessors_ok_iff]
    exact h
  simp [processResponseThenLease, hok]

end FinalStatus

/-- Only the success value of a lease use status is a success. -/
theorem leaseUseStatus_ok_iff (status : LeaseUseStatus) :
    (leaseUseStatus status).ok = true ↔ status = .ok := by
  cases status with
  | unrecognized value h =>
      have other : value ≠ 1 := by omega
      simp [leaseUseStatus, Status.ok, leaseUseResultStatusCategory, LeaseUseStatus.number,
        other]
  | _ =>
      simp [leaseUseStatus, Status.ok, leaseUseResultStatusCategory, LeaseUseStatus.number]

theorem processResponseWithLeaseUseResult_ok_iff {leaseUseResult : Option LeaseUseResult}
    {wallet : LeaseWallet} :
    (processResponseWithLeaseUseResult leaseUseResult wallet).2.ok = true ↔
      ∀ result, leaseUseResult = some result → result.status = .ok := by
  cases leaseUseResult with
  | none => simp [processResponseWithLeaseUseResult, leaseUseStatus_ok_iff]
  | some result => simp [processResponseWithLeaseUseResult, leaseUseStatus_ok_iff]

/-- A final success needs an accepted response, a well used lease and a successful
response status. -/
theorem finalStatusWithLease_ok_iff {M : Type*} {chain : List (ResponseProcessor M)}
    {status : GrpcStatus} {header : ResponseHeader} {full : M} {responseStatus : ErrorCode}
    {wallet : LeaseWallet} {leaseUseResult : Option LeaseUseResult} :
    (processResponseWithLeaseAndGetFinalStatus chain status header full responseStatus wallet
        leaseUseResult).2.ok = true ↔
      Accepts chain status header full ∧
        (∀ result, leaseUseResult = some result → result.status = .ok) ∧
          (Status.mk responseStatus "").ok = true := by
  rw [processResponseWithLeaseAndGetFinalStatus, ← processResponseWithLeaseUseResult_ok_iff]
  by_cases accepted : Accepts chain status header full
  · rw [processResponseThenLease_of_accepts accepted]
    cases used : (processResponseWithLeaseUseResult leaseUseResult wallet).2.ok with
    | false => simp [used]
    | true => simp [accepted]
  · rw [processResponseThenLease_of_not_accepts accepted, runOnlyResponseProcessors_ok_iff]
    simp [accepted]

/-- A good lease use result leaves the wallet as it is. -/
theorem LeaseWallet.onLeaseUseResult_of_ok {wallet : LeaseWallet} {result : LeaseUseResult}
    (h : result.status = .ok) : (wallet.onLeaseUseResult result).1 = wallet := by
  cases found : wallet.leaseMap[result.attemptedLease.resource]? with
  | none => rw [onLeaseUseResult_of_none found]
  | some lease =>
      rw [onLeaseUseResult_of_some found]
      have same : (lease.updateFromLeaseUseResult result).2 = lease := by
        simp [Lease.updateFromLeaseUseResult, h]
      refine LeaseWallet.ext rfl fun resource => ?_
      rw [storeUpdated_lookup, same]
      split
      · next held =>
        subst held
        exact found.symm
      · rfl

end SpotSdk.Client
