import SpotSdk.Lease.LeaseProcessors

/-!
# Uploading a graph

The unary and the streaming upload share request and response. Only the unary completion
processes the lease use result.
-/

namespace SpotSdk.Client

open Common

/-- The fields of `UploadGraphResponse` that a completion reads. -/
structure UploadGraphResponse where
  header : ResponseHeader := {}
  status : Int := 0
  leaseUseResult : Option LeaseUseResult := none
  deriving DecidableEq, Repr

def uploadGraphStatusCategory : ErrorCategory := ⟨"UploadGraphResponse_Status", [1]⟩

abbrev GraphNavProcessorChain := List (ResponseProcessor UploadGraphResponse)

/-- `GraphNavClient::OnUploadGraphComplete`: the wallet and the promised result. -/
def onUploadGraphComplete (chain : GraphNavProcessorChain) (wallet : LeaseWallet)
    (response : UploadGraphResponse) (status : GrpcStatus) :
    LeaseWallet × Result UploadGraphResponse :=
  let (wallet, retStatus) :=
    processResponseWithLeaseAndGetFinalStatus chain status response.header response
      ⟨uploadGraphStatusCategory, response.status⟩ wallet response.leaseUseResult
  (wallet, ⟨retStatus, response⟩)

/-- `GraphNavClient::OnUploadGraphStreamingComplete`. -/
def onUploadGraphStreamingComplete (chain : GraphNavProcessorChain) (wallet : LeaseWallet)
    (response : UploadGraphResponse) (status : GrpcStatus) :
    LeaseWallet × Result UploadGraphResponse :=
  let retStatus := processResponseAndGetFinalStatus chain status response.header response
    ⟨uploadGraphStatusCategory, response.status⟩
  (wallet, ⟨retStatus, response⟩)

section Uploads

variable (chain : GraphNavProcessorChain) (wallet : LeaseWallet)
  (response : UploadGraphResponse) (status : GrpcStatus)

/-- Both ways to upload a graph end the same way. -/
structure UploadsAgree : Prop where
  sameStatus : (onUploadGraphStreamingComplete chain wallet response status).2.status =
    (onUploadGraphComplete chain wallet response status).2.status
  sameWallet : (onUploadGraphStreamingComplete chain wallet response status).1 =
    (onUploadGraphComplete chain wallet response status).1
  processed : ∀ result, response.leaseUseResult = some result →
    Accepts chain status response.header response →
      (onUploadGraphStreamingComplete chain wallet response status).1 =
          (wallet.onLeaseUseResult result).1 ∧
        (onUploadGraphComplete chain wallet response status).1 =
          (wallet.onLeaseUseResult result).1

/-- The lease use result, if there is one, reports a good use. -/
def LeaseUsedWell : Prop :=
  ∀ result, response.leaseUseResult = some result → result.status = .ok

variable {chain wallet response status}

theorem uploads_of_not_accepts (h : ¬ Accepts chain status response.header response) :
    onUploadGraphStreamingComplete chain wallet response status =
      onUploadGraphComplete chain wallet response status := by
  have hok : (runOnlyResponseProcessors chain status response.header response).ok = false := by
    rw [Bool.eq_false_iff, ne_eq, runOnlyResponseProcessors_ok_iff]
    exact h
  simp only [onUploadGraphStreamingComplete, onUploadGraphComplete,
    processResponseWithLeaseAndGetFinalStatus, processResponseThenLease_of_not_accepts h,
    finalStatus_eq_runOnly, hok, Bool.false_eq_true, if_false]

/-- The streaming completion reports the status of an accepted response. -/
theorem streaming_of_accepts (h : Accepts chain status response.header response) :
    onUploadGraphStreamingComplete chain wallet response status =
      (wallet, ⟨⟨⟨uploadGraphStatusCategory, response.status⟩, ""⟩, response⟩) := by
  simp only [onUploadGraphStreamingComplete, finalStatus_eq_runOnly,
    runOnlyResponseProcessors_ok_iff.mpr h, if_true]

/-- A well used lease leaves the unary completion with the status of the response. -/
theorem unary_of_usedWell (h : Accepts chain status response.header response)
    (used : LeaseUsedWell response) :
    onUploadGraphComplete chain wallet response status =
      (wallet, ⟨⟨⟨uploadGraphStatusCategory, response.status⟩, ""⟩, response⟩) := by
  have processed : processResponseWithLeaseUseResult response.leaseUseResult wallet =
      (wallet, leaseUseStatus .ok) := by
    cases found : response.leaseUseResult with
    | none => rfl
    | some result =>
        have hok := used result found
        simp [processResponseWithLeaseUseResult, hok, LeaseWallet.onLeaseUseResult_of_ok hok]
  simp only [onUploadGraphComplete, processResponseWithLeaseAndGetFinalStatus,
    processResponseThenLease_of_accepts h, processed, (leaseUseStatus_ok_iff .ok).mpr rfl,
    if_true]

/-- Any other use is reported as the status of the unary completion. -/
theorem unary_of_usedBadly (h : Accepts chain status response.header response)
    {result : LeaseUseResult} (found : response.leaseUseResult = some result)
    (bad : result.status ≠ .ok) :
    onUploadGraphComplete chain wallet response status =
      ((wallet.onLeaseUseResult result).1, ⟨leaseUseStatus result.status, response⟩) := by
  have hok : (leaseUseStatus result.status).ok = false := by
    rw [Bool.eq_false_iff, ne_eq, leaseUseStatus_ok_iff]
    exact bad
  simp only [onUploadGraphComplete, processResponseWithLeaseAndGetFinalStatus,
    processResponseThenLease_of_accepts h, processResponseWithLeaseUseResult, found, hok,
    Bool.false_eq_true, if_false]

/-- The two ways agree exactly when the response is not accepted or reports no bad use
of the lease. -/
theorem uploadsAgree_iff (chain : GraphNavProcessorChain) (wallet : LeaseWallet)
    (response : UploadGraphResponse) (status : GrpcStatus) :
    UploadsAgree chain wallet response status ↔
      ¬ Accepts chain status response.header response ∨ LeaseUsedWell response := by
  constructor
  · intro agree
    by_contra neither
    rw [not_or, not_not] at neither
    obtain ⟨accepted, badly⟩ := neither
    obtain ⟨result, found, bad⟩ : ∃ result, response.leaseUseResult = some result ∧
        result.status ≠ .ok := by
      simpa [LeaseUsedWell] using badly
    -- The statuses are of different categories.
    have same := agree.sameStatus
    rw [streaming_of_accepts accepted, unary_of_usedBadly accepted found bad] at same
    have names : "UploadGraphResponse_Status" = "LeaseUseResult_Status" :=
      congrArg (fun status => status.code.category.name) same
    exact absurd names (by decide)
  · rintro (refused | used)
    · exact
        { sameStatus := by rw [uploads_of_not_accepts refused]
          sameWallet := by rw [uploads_of_not_accepts refused]
          processed := fun _ _ accepted => absurd accepted refused }
    · by_cases accepted : Accepts chain status response.header response
      · refine
          { sameStatus := ?_, sameWallet := ?_, processed := fun result found _ => ?_ }
        · rw [streaming_of_accepts accepted, unary_of_usedWell accepted used]
        · rw [streaming_of_accepts accepted, unary_of_usedWell accepted used]
        · rw [streaming_of_accepts accepted, unary_of_usedWell accepted used,
            LeaseWallet.onLeaseUseResult_of_ok (used result found)]
          exact ⟨rfl, rfl⟩
      · exact
          { sameStatus := by rw [uploads_of_not_accepts accepted]
            sameWallet := by rw [uploads_of_not_accepts accepted]
            processed := fun _ _ h => absurd h accepted }

end Uploads

/-- The robot stored the graph and reports the lease of the upload as revoked. -/
def revokedUpload : UploadGraphResponse where
  header := ⟨⟨1, ""⟩⟩
  status := 1
  leaseUseResult := some { status := .revoked }

/-- The streaming upload reports success where the unary one reports a revoked lease. -/
theorem not_uploadsAgree_revoked :
    ¬ UploadsAgree [commonResponseProcessor] { clientName := "client" } revokedUpload {} := by
  intro agree
  have accepted : Accepts [commonResponseProcessor] {} revokedUpload.header revokedUpload :=
    ⟨by decide, by decide⟩
  have same := agree.sameStatus
  rw [streaming_of_accepts accepted, unary_of_usedBadly accepted rfl (by decide)] at same
  exact absurd same (by decide)

end SpotSdk.Client
