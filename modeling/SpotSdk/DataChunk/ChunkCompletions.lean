import SpotSdk.DataChunk.DataChunking
import SpotSdk.Lease.LeaseProcessors

/-!
# Completions of chunked streams

A large response is streamed in chunks, and the completion joins them. The downloads of
the graph look at the gRPC status first; the other completions join the chunks before
they look at it.
-/

namespace SpotSdk.Client

open Common

/-! ## Messages -/

structure QueryStoredCapturesResponse where
  header : ResponseHeader := {}
  deriving DecidableEq, Repr, Inhabited

structure LoadMissionResponse where
  header : ResponseHeader := {}
  status : Int := 0
  leaseUseResults : List LeaseUseResult := []
  deriving DecidableEq, Repr, Inhabited

structure GetInfoResponse where
  header : ResponseHeader := {}
  deriving DecidableEq, Repr, Inhabited

structure GetMissionResponse where
  header : ResponseHeader := {}
  deriving DecidableEq, Repr, Inhabited

structure CompileAutowalkResponse where
  header : ResponseHeader := {}
  status : Int := 0
  deriving DecidableEq, Repr, Inhabited

structure LoadAutowalkResponse where
  header : ResponseHeader := {}
  status : Int := 0
  leaseUseResults : List LeaseUseResult := []
  deriving DecidableEq, Repr, Inhabited

structure DownloadWaypointSnapshotResponse where
  header : ResponseHeader := {}
  status : Int := 0
  waypointSnapshotId : String := ""
  chunk : DataChunk := {}
  deriving DecidableEq, Repr

structure DownloadEdgeSnapshotResponse where
  header : ResponseHeader := {}
  status : Int := 0
  edgeSnapshotId : String := ""
  chunk : DataChunk := {}
  deriving DecidableEq, Repr

structure DownloadGraphStreamingResponse where
  header : ResponseHeader := {}
  chunk : DataChunk := {}
  deriving DecidableEq, Repr

def loadMissionStatusCategory : ErrorCategory := ⟨"LoadMissionResponse_Status", [1]⟩

def compileAutowalkStatusCategory : ErrorCategory := ⟨"CompileAutowalkResponse_Status", [1]⟩

def loadAutowalkStatusCategory : ErrorCategory := ⟨"LoadAutowalkResponse_Status", [1]⟩

def downloadWaypointSnapshotStatusCategory : ErrorCategory :=
  ⟨"DownloadWaypointSnapshotResponse_Status", [1]⟩

def downloadEdgeSnapshotStatusCategory : ErrorCategory :=
  ⟨"DownloadEdgeSnapshotResponse_Status", [1]⟩

/-! ## Completions that join the chunks first -/

section Joining

variable {M T : Type*} [Inhabited M]

/-- Join the chunks; give the caller the failure, or go on with the message. -/
def completeFromChunks (parse : List UInt8 → Option M) (give : Result M → T)
    (finish : M → T) (responses : List DataChunk) : Option T :=
  (messageFromDataChunks parse responses).map fun responseResult =>
    if !responseResult.ok then give responseResult else finish responseResult.response

end Joining

section Handlers

variable (wallet : LeaseWallet) (responses : List DataChunk) (status : GrpcStatus)

def onQueryStoredCapturesComplete (parse : List UInt8 → Option QueryStoredCapturesResponse)
    (chain : List (ResponseProcessor QueryStoredCapturesResponse)) :
    Option (Result QueryStoredCapturesResponse) :=
  completeFromChunks parse id
    (fun response => ⟨processResponseAndGetFinalStatus chain status response.header response
      SDKErrorCode.success.code, response⟩) responses

def onGetMissionAsChunksComplete (parse : List UInt8 → Option GetMissionResponse)
    (chain : List (ResponseProcessor GetMissionResponse)) :
    Option (Result GetMissionResponse) :=
  completeFromChunks parse id
    (fun response => ⟨processResponseAndGetFinalStatus chain status response.header response
      SDKErrorCode.success.code, response⟩) responses

/-- Unlike its siblings this completion rejects an empty stream by itself. -/
def onGetInfoAsChunksComplete (parse : List UInt8 → Option GetInfoResponse)
    (chain : List (ResponseProcessor GetInfoResponse)) : Option (Result GetInfoResponse) :=
  if responses.isEmpty then
    some ⟨⟨SDKErrorCode.genericSDKError.code,
      "Recieved empty vector of GetInfoResponse protos."⟩, default⟩
  else
    completeFromChunks parse id
      (fun response => ⟨processResponseAndGetFinalStatus chain status response.header response
        SDKErrorCode.success.code, response⟩) responses

def onLoadMissionAsChunks2Complete (parse : List UInt8 → Option LoadMissionResponse)
    (chain : List (ResponseProcessor LoadMissionResponse)) :
    Option (LeaseWallet × Result LoadMissionResponse) :=
  completeFromChunks parse (fun result => (wallet, result))
    (fun response =>
      let (wallet, retStatus) := processResponseWithMultiLeaseAndGetFinalStatus chain status
        response.header response ⟨loadMissionStatusCategory, response.status⟩ wallet
        response.leaseUseResults
      (wallet, ⟨retStatus, response⟩)) responses

def onCompileAutowalkComplete (parse : List UInt8 → Option CompileAutowalkResponse)
    (chain : List (ResponseProcessor CompileAutowalkResponse)) :
    Option (Result CompileAutowalkResponse) :=
  completeFromChunks parse id
    (fun response => ⟨processResponseAndGetFinalStatus chain status response.header response
      ⟨compileAutowalkStatusCategory, response.status⟩, response⟩) responses

def onLoadAutowalkComplete (parse : List UInt8 → Option LoadAutowalkResponse)
    (chain : List (ResponseProcessor LoadAutowalkResponse)) :
    Option (LeaseWallet × Result LoadAutowalkResponse) :=
  completeFromChunks parse (fun result => (wallet, result))
    (fun response =>
      let (wallet, retStatus) := processResponseWithMultiLeaseAndGetFinalStatus chain status
        response.header response ⟨loadAutowalkStatusCategory, response.status⟩ wallet
        response.leaseUseResults
      (wallet, ⟨retStatus, response⟩)) responses

end Handlers

/-! ## Downloads of the graph -/

section Downloads

variable {P : Type*} [Inhabited P] (parse : List UInt8 → Option P) (status : GrpcStatus)

/-- `OnDownloadWaypointSnapshotComplete`. -/
def onDownloadWaypointSnapshotComplete
    (chain : List (ResponseProcessor DownloadWaypointSnapshotResponse))
    (responses : List DownloadWaypointSnapshotResponse) : Option (Result P) :=
  let retStatus := processResponseVectorAndGetFinalStatus chain status
    DownloadWaypointSnapshotResponse.header
    (fun response => ⟨downloadWaypointSnapshotStatusCategory, response.status⟩) responses
  if !retStatus.ok then some ⟨retStatus, default⟩
  else
    match responses with
    | [] => some ⟨⟨SDKErrorCode.genericSDKError.code,
        "Empty vector of DownloadWaypointSnapshotResponse received"⟩, default⟩
    | first :: _ =>
        if responses.any fun response => response.waypointSnapshotId ≠ first.waypointSnapshotId
        then some ⟨⟨SDKErrorCode.genericSDKError.code,
          "Multiple waypoint IDs in DownloadWaypointSnapshotResponse vector received"⟩, default⟩
        else messageFromDataChunks parse
          (responses.map DownloadWaypointSnapshotResponse.chunk)

/-- `OnDownloadEdgeSnapshotComplete`. -/
def onDownloadEdgeSnapshotComplete
    (chain : List (ResponseProcessor DownloadEdgeSnapshotResponse))
    (responses : List DownloadEdgeSnapshotResponse) : Option (Result P) :=
  let retStatus := processResponseVectorAndGetFinalStatus chain status
    DownloadEdgeSnapshotResponse.header
    (fun response => ⟨downloadEdgeSnapshotStatusCategory, response.status⟩) responses
  if !retStatus.ok then some ⟨retStatus, default⟩
  else
    match responses with
    | [] => some ⟨⟨SDKErrorCode.genericSDKError.code,
        "Empty vector of DownloadEdgeSnapshotResponse received"⟩, default⟩
    | first :: _ =>
        if responses.any fun response => response.edgeSnapshotId ≠ first.edgeSnapshotId
        then some ⟨⟨SDKErrorCode.genericSDKError.code,
          "Multiple edge IDs in DownloadEdgeSnapshotResponse vector received"⟩, default⟩
        else messageFromDataChunks parse (responses.map DownloadEdgeSnapshotResponse.chunk)

/-- `OnDownloadGraphStreamingComplete`. -/
def onDownloadGraphStreamingComplete
    (chain : List (ResponseProcessor DownloadGraphStreamingResponse))
    (responses : List DownloadGraphStreamingResponse) : Option (Result P) :=
  let retStatus := processResponseVector chain status DownloadGraphStreamingResponse.header
    responses
  if !retStatus.ok then some ⟨retStatus, default⟩
  else
    match responses with
    | [] => some ⟨⟨SDKErrorCode.genericSDKError.code,
        "Empty vector of DownloadGraphStreamingResponse received"⟩, default⟩
    | _ => messageFromDataChunks parse (responses.map DownloadGraphStreamingResponse.chunk)

end Downloads

/-! ## What a completion reports -/

/-- A completed stream with what its completion uses: the parser of the message, the
response processors and the wallet. -/
inductive ChunkCompletion (P : Type*)
  | queryStoredCaptures (parse : List UInt8 → Option QueryStoredCapturesResponse)
      (chain : List (ResponseProcessor QueryStoredCapturesResponse))
      (responses : List DataChunk)
  | loadMissionAsChunks2 (parse : List UInt8 → Option LoadMissionResponse)
      (chain : List (ResponseProcessor LoadMissionResponse)) (wallet : LeaseWallet)
      (responses : List DataChunk)
  | getInfoAsChunks (parse : List UInt8 → Option GetInfoResponse)
      (chain : List (ResponseProcessor GetInfoResponse)) (responses : List DataChunk)
  | getMissionAsChunks (parse : List UInt8 → Option GetMissionResponse)
      (chain : List (ResponseProcessor GetMissionResponse)) (responses : List DataChunk)
  | compileAutowalk (parse : List UInt8 → Option CompileAutowalkResponse)
      (chain : List (ResponseProcessor CompileAutowalkResponse)) (responses : List DataChunk)
  | loadAutowalk (parse : List UInt8 → Option LoadAutowalkResponse)
      (chain : List (ResponseProcessor LoadAutowalkResponse)) (wallet : LeaseWallet)
      (responses : List DataChunk)
  | downloadWaypointSnapshot (parse : List UInt8 → Option P)
      (chain : List (ResponseProcessor DownloadWaypointSnapshotResponse))
      (responses : List DownloadWaypointSnapshotResponse)
  | downloadEdgeSnapshot (parse : List UInt8 → Option P)
      (chain : List (ResponseProcessor DownloadEdgeSnapshotResponse))
      (responses : List DownloadEdgeSnapshotResponse)
  | downloadGraphStreaming (parse : List UInt8 → Option P)
      (chain : List (ResponseProcessor DownloadGraphStreamingResponse))
      (responses : List DownloadGraphStreamingResponse)

namespace ChunkCompletion

variable {P : Type*} [Inhabited P]

/-- The status given to the promise, absent when the completion throws. -/
def report (status : GrpcStatus) : ChunkCompletion P → Option Status
  | queryStoredCaptures parse chain responses =>
      (onQueryStoredCapturesComplete responses status parse chain).map Result.status
  | loadMissionAsChunks2 parse chain wallet responses =>
      (onLoadMissionAsChunks2Complete wallet responses status parse chain).map (·.2.status)
  | getInfoAsChunks parse chain responses =>
      (onGetInfoAsChunksComplete responses status parse chain).map Result.status
  | getMissionAsChunks parse chain responses =>
      (onGetMissionAsChunksComplete responses status parse chain).map Result.status
  | compileAutowalk parse chain responses =>
      (onCompileAutowalkComplete responses status parse chain).map Result.status
  | loadAutowalk parse chain wallet responses =>
      (onLoadAutowalkComplete wallet responses status parse chain).map (·.2.status)
  | downloadWaypointSnapshot parse chain responses =>
      (onDownloadWaypointSnapshotComplete parse status chain responses).map Result.status
  | downloadEdgeSnapshot parse chain responses =>
      (onDownloadEdgeSnapshotComplete parse status chain responses).map Result.status
  | downloadGraphStreaming parse chain responses =>
      (onDownloadGraphStreamingComplete parse status chain responses).map Result.status

/-- The received chunks do not hide how the RPC ended. -/
def ChunksDecode : ChunkCompletion P → Prop
  | queryStoredCaptures parse _ responses => Decodes parse responses
  | loadMissionAsChunks2 parse _ _ responses => Decodes parse responses
  | getInfoAsChunks parse _ responses => responses ≠ [] ∧ Decodes parse responses
  | getMissionAsChunks parse _ responses => Decodes parse responses
  | compileAutowalk parse _ responses => Decodes parse responses
  | loadAutowalk parse _ _ responses => Decodes parse responses
  | downloadWaypointSnapshot .. => True
  | downloadEdgeSnapshot .. => True
  | downloadGraphStreaming .. => True

end ChunkCompletion

/-- A decoding error is never the status of a transport failure. -/
theorem genericSDKError_ne_converted (message : String) (status : GrpcStatus) :
    (⟨SDKErrorCode.genericSDKError.code, message⟩ : Status) ≠ convertGRPCStatus status := by
  intro same
  have category : sdkErrorCategory = rpcErrorCategory := by
    rw [← convertGRPCStatus_category status, ← same]
    rfl
  exact absurd category (by decide)

/-- A completion that joins first reports the failed RPC exactly when the chunks
decode. -/
theorem completeFromChunks_reports_iff {M T : Type*} [Inhabited M]
    {parse : List UInt8 → Option M} {give : Result M → T} {finish : M → T}
    {responses : List DataChunk} {status : GrpcStatus} (statusOf : T → Status)
    (given : ∀ result, statusOf (give result) = result.status)
    (finished : ∀ response, statusOf (finish response) = convertGRPCStatus status) :
    (completeFromChunks parse give finish responses).map statusOf =
        some (convertGRPCStatus status) ↔ Decodes parse responses := by
  rcases messageFromDataChunks_cases parse responses with
    ⟨decodes, output, joined⟩ | ⟨broken, thrown | ⟨message, failed⟩⟩
  · simp [completeFromChunks, joined, Result.ok, finished, decodes]
  · simp [completeFromChunks, thrown, broken]
  · have bad : (⟨⟨SDKErrorCode.genericSDKError.code, message⟩, default⟩ : Result M).ok =
        false := rfl
    simp [completeFromChunks, failed, bad, given, broken, genericSDKError_ne_converted]

/-- The lease variants report a failed RPC before they look at the leases. -/
theorem multiLeaseStatus_of_failed {M : Type*} (chain : List (ResponseProcessor M))
    {status : GrpcStatus} (h : status.ok = false) (header : ResponseHeader) (full : M)
    (responseStatus : ErrorCode) (wallet : LeaseWallet) (results : List LeaseUseResult) :
    (processResponseWithMultiLeaseAndGetFinalStatus chain status header full responseStatus
      wallet results).2 = convertGRPCStatus status := by
  have refused : ¬ Accepts chain status header full := by
    intro accepted
    cases h.symm.trans accepted.1
  rw [processResponseWithMultiLeaseAndGetFinalStatus,
    processResponseThenLease_of_not_accepts refused]
  simp [runOnlyResponseProcessors, h]

/-- When the RPC failed, a completion reports the converted gRPC status exactly when
the chunks it joins before decode. -/
theorem report_converted_iff {P : Type*} [Inhabited P] (completion : ChunkCompletion P)
    {status : GrpcStatus} (h : status.ok = false) :
    completion.report status = some (convertGRPCStatus status) ↔ completion.ChunksDecode := by
  cases completion with
  | queryStoredCaptures parse chain responses =>
      exact completeFromChunks_reports_iff Result.status (fun _ => rfl)
        fun response => finalStatus_of_failed chain h response.header response _
  | loadMissionAsChunks2 parse chain wallet responses =>
      exact completeFromChunks_reports_iff (fun given => Result.status (Prod.snd given))
        (fun _ => rfl)
        fun response => multiLeaseStatus_of_failed chain h response.header response _ _ _
  | getInfoAsChunks parse chain responses =>
      cases responses with
      | nil =>
          have generic := genericSDKError_ne_converted
            "Recieved empty vector of GetInfoResponse protos." status
          simp [ChunkCompletion.report, ChunkCompletion.ChunksDecode,
            onGetInfoAsChunksComplete, generic]
      | cons first rest =>
          have joins : (completeFromChunks parse id
              (fun response => ⟨processResponseAndGetFinalStatus chain status response.header
                response SDKErrorCode.success.code, response⟩) (first :: rest)).map
              Result.status = some (convertGRPCStatus status) ↔ Decodes parse (first :: rest) :=
            completeFromChunks_reports_iff Result.status (fun _ => rfl)
              fun response => finalStatus_of_failed chain h response.header response _
          exact joins.trans ⟨fun decodes => ⟨List.cons_ne_nil _ _, decodes⟩, And.right⟩
  | getMissionAsChunks parse chain responses =>
      exact completeFromChunks_reports_iff Result.status (fun _ => rfl)
        fun response => finalStatus_of_failed chain h response.header response _
  | compileAutowalk parse chain responses =>
      exact completeFromChunks_reports_iff Result.status (fun _ => rfl)
        fun response => finalStatus_of_failed chain h response.header response _
  | loadAutowalk parse chain wallet responses =>
      exact completeFromChunks_reports_iff (fun given => Result.status (Prod.snd given))
        (fun _ => rfl)
        fun response => multiLeaseStatus_of_failed chain h response.header response _ _ _
  | downloadWaypointSnapshot parse chain responses =>
      simp [ChunkCompletion.report, ChunkCompletion.ChunksDecode,
        onDownloadWaypointSnapshotComplete, vectorFinalStatus_of_failed chain h, h]
  | downloadEdgeSnapshot parse chain responses =>
      simp [ChunkCompletion.report, ChunkCompletion.ChunksDecode,
        onDownloadEdgeSnapshotComplete, vectorFinalStatus_of_failed chain h, h]
  | downloadGraphStreaming parse chain responses =>
      simp [ChunkCompletion.report, ChunkCompletion.ChunksDecode,
        onDownloadGraphStreamingComplete, vectorStatus_of_failed chain h, h]

/-- Both chunks of a mission, with a failure behind them. -/
def wholeMission : ChunkCompletion Unit :=
  .getMissionAsChunks (fun _ => some {}) [] [⟨4, [1, 2]⟩, ⟨4, [3, 4]⟩]

theorem report_wholeMission :
    wholeMission.report { errorCode := .unavailable } =
      some (convertGRPCStatus { errorCode := .unavailable }) := by
  have complete : Complete [(⟨4, [1, 2]⟩ : DataChunk), ⟨4, [3, 4]⟩] := by
    intro chunk member
    simp only [List.mem_cons, List.not_mem_nil, or_false] at member
    rcases member with rfl | rfl <;> exact ⟨rfl, by decide⟩
  exact (report_converted_iff wholeMission (by decide)).mpr ⟨complete, rfl⟩

/-- The first of two chunks of a mission, with the stream broken off behind it. -/
def brokenMission : ChunkCompletion Unit :=
  .getMissionAsChunks (fun _ => some {}) [] [⟨4, [1, 2]⟩]

/-- The broken stream is reported as a size mismatch. -/
theorem not_report_brokenMission :
    brokenMission.report { errorCode := .unavailable } ≠
      some (convertGRPCStatus { errorCode := .unavailable }) := by
  have value : brokenMission.report { errorCode := .unavailable } =
      some ⟨SDKErrorCode.genericSDKError.code, "Size mismatch in StringFromDataChunks"⟩ := by
    decide
  rw [value, ne_eq, Option.some.injEq]
  exact genericSDKError_ne_converted _ _

end SpotSdk.Client
