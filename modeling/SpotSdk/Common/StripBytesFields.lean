import SpotSdk.Foundations.FieldWalks

/-!
# Stripping large bytes fields

`StripLargeByteFields` removes the bytes fields that a whitelist names from messages of
twelve types, before they are logged or copied into a response header. It reaches the
fields by mutable accessors, which make the parts that a message lacks; of two parts that
exclude each other, making one removes the other.

A message is modelled by the fields on the way to the bytes; `F` stands for all its other
fields, and the default of `F` for these fields in a new message.
-/

namespace SpotSdk.Common.StripMessages

open SpotSdk.Foundations

universe u

variable {F : Type u}

/-! ## Messages -/

/-- The messages whose field `data` is stripped. -/
structure DataMessage (F : Type u) where
  data : List UInt8
  others : F
  deriving Inhabited, DecidableEq

abbrev Image := DataMessage
abbrev LocalGrid := DataMessage
abbrev PointCloud := DataMessage
abbrev DataChunk := DataMessage
abbrev DataBlob := DataMessage
abbrev SignalTick := DataMessage
abbrev StoreDataRequest := DataMessage

structure ImageCapture (F : Type u) where
  image : Option (Image F)
  others : F
  deriving Inhabited, DecidableEq

structure ImageResponse (F : Type u) where
  shot : Option (ImageCapture F)
  others : F
  deriving DecidableEq

structure GetImageResponse (F : Type u) where
  imageResponses : List (ImageResponse F)
  others : F
  deriving DecidableEq

structure LocalGridResponse (F : Type u) where
  localGrid : Option (LocalGrid F)
  others : F
  deriving DecidableEq

structure GetLocalGridsResponse (F : Type u) where
  localGridResponses : List (LocalGridResponse F)
  others : F
  deriving DecidableEq

/-- The alternatives of `cloud_data`. -/
inductive CloudData (F : Type u)
  | pointCloud (cloud : PointCloud F)
  | lidarCloud (fields : F)
  deriving DecidableEq

structure PointCloudResponse (F : Type u) where
  cloudData : Option (CloudData F)
  others : F
  deriving DecidableEq

structure GetPointCloudResponse (F : Type u) where
  pointCloudResponses : List (PointCloudResponse F)
  others : F
  deriving DecidableEq

/-- The uploads and downloads of snapshots, which have one chunk each. -/
structure ChunkMessage (F : Type u) where
  chunk : Option (DataChunk F)
  others : F
  deriving DecidableEq

structure RecordDataBlobsRequest (F : Type u) where
  blobData : List (DataBlob F)
  others : F
  deriving DecidableEq

structure RecordSignalTicksRequest (F : Type u) where
  tickData : List (SignalTick F)
  others : F
  deriving DecidableEq

structure StoreImageRequest (F : Type u) where
  image : Option (ImageCapture F)
  others : F
  deriving DecidableEq

/-- The class of a message; any other one by the name of its type. -/
inductive MessageType
  | getImageResponse
  | getLocalGridsResponse
  | getPointCloudResponse
  | uploadWaypointSnapshotRequest
  | uploadEdgeSnapshotRequest
  | uploadSnapshotsRequest
  | downloadWaypointSnapshotResponse
  | downloadEdgeSnapshotResponse
  | recordDataBlobsRequest
  | recordSignalTicksRequest
  | storeImageRequest
  | storeDataRequest
  | other (name : String)
  deriving DecidableEq

namespace MessageType

/-- `GetTypeName()`. -/
def typeName : MessageType → String
  | getImageResponse => "bosdyn.api.GetImageResponse"
  | getLocalGridsResponse => "bosdyn.api.GetLocalGridsResponse"
  | getPointCloudResponse => "bosdyn.api.GetPointCloudResponse"
  | uploadWaypointSnapshotRequest => "bosdyn.api.graph_nav.UploadWaypointSnapshotRequest"
  | uploadEdgeSnapshotRequest => "bosdyn.api.graph_nav.UploadEdgeSnapshotRequest"
  | uploadSnapshotsRequest => "bosdyn.api.graph_nav.UploadSnapshotsRequest"
  | downloadWaypointSnapshotResponse => "bosdyn.api.graph_nav.DownloadWaypointSnapshotResponse"
  | downloadEdgeSnapshotResponse => "bosdyn.api.graph_nav.DownloadEdgeSnapshotResponse"
  | recordDataBlobsRequest => "bosdyn.api.RecordDataBlobsRequest"
  | recordSignalTicksRequest => "bosdyn.api.RecordSignalTicksRequest"
  | storeImageRequest => "bosdyn.api.StoreImageRequest"
  | storeDataRequest => "bosdyn.api.StoreDataRequest"
  | other name => name

abbrev Content (F : Type u) : MessageType → Type u
  | getImageResponse => GetImageResponse F
  | getLocalGridsResponse => GetLocalGridsResponse F
  | getPointCloudResponse => GetPointCloudResponse F
  | uploadWaypointSnapshotRequest | uploadEdgeSnapshotRequest | uploadSnapshotsRequest
  | downloadWaypointSnapshotResponse | downloadEdgeSnapshotResponse => ChunkMessage F
  | recordDataBlobsRequest => RecordDataBlobsRequest F
  | recordSignalTicksRequest => RecordSignalTicksRequest F
  | storeImageRequest => StoreImageRequest F
  | storeDataRequest => StoreDataRequest F
  | other _ => F

end MessageType

/-- A message, as `google::protobuf::Message` is one of any type. -/
abbrev Message (F : Type u) := Sigma (MessageType.Content F)

/-! ## Accessors -/

def data : Member (DataMessage F) (List UInt8) where
  get m := m.data
  put m bytes := { m with data := bytes }
  get_put _ _ := rfl
  put_put _ _ _ := rfl
  put_get _ := rfl

/-- `clear_data()`. -/
def clearData (m : DataMessage F) : DataMessage F := { m with data := [] }

def imageResponses : Member (GetImageResponse F) (List (ImageResponse F)) where
  get m := m.imageResponses
  put m responses := { m with imageResponses := responses }
  get_put _ _ := rfl
  put_put _ _ _ := rfl
  put_get _ := rfl

def localGridResponses : Member (GetLocalGridsResponse F) (List (LocalGridResponse F)) where
  get m := m.localGridResponses
  put m responses := { m with localGridResponses := responses }
  get_put _ _ := rfl
  put_put _ _ _ := rfl
  put_get _ := rfl

def pointCloudResponses : Member (GetPointCloudResponse F) (List (PointCloudResponse F)) where
  get m := m.pointCloudResponses
  put m responses := { m with pointCloudResponses := responses }
  get_put _ _ := rfl
  put_put _ _ _ := rfl
  put_get _ := rfl

def blobData : Member (RecordDataBlobsRequest F) (List (DataBlob F)) where
  get m := m.blobData
  put m blobs := { m with blobData := blobs }
  get_put _ _ := rfl
  put_put _ _ _ := rfl
  put_get _ := rfl

def tickData : Member (RecordSignalTicksRequest F) (List (SignalTick F)) where
  get m := m.tickData
  put m ticks := { m with tickData := ticks }
  get_put _ _ := rfl
  put_put _ _ _ := rfl
  put_get _ := rfl

def shot : Part (ImageResponse F) (ImageCapture F) :=
  .ofMember ⟨(·.shot), fun m p => { m with shot := p }, fun _ _ => rfl, fun _ _ _ => rfl,
    fun _ => rfl⟩

def image : Part (ImageCapture F) (Image F) :=
  .ofMember ⟨(·.image), fun m p => { m with image := p }, fun _ _ => rfl, fun _ _ _ => rfl,
    fun _ => rfl⟩

def localGrid : Part (LocalGridResponse F) (LocalGrid F) :=
  .ofMember ⟨(·.localGrid), fun m p => { m with localGrid := p }, fun _ _ => rfl,
    fun _ _ _ => rfl, fun _ => rfl⟩

/-- One alternative of `cloud_data`; making it removes the other one. -/
def pointCloud : Part (PointCloudResponse F) (PointCloud F) where
  get m :=
    match m.cloudData with
    | some (.pointCloud cloud) => some cloud
    | some (.lidarCloud _) => none
    | none => none
  put m cloud := { m with cloudData := some (.pointCloud cloud) }
  get_put _ _ := rfl
  put_put _ _ _ := rfl
  put_get m cloud here := by
    cases m with
    | mk cloudData others =>
        cases cloudData with
        | none => cases here
        | some alternative =>
            cases alternative with
            | pointCloud _ => rw [Option.some.inj here]
            | lidarCloud _ => cases here

def chunk : Part (ChunkMessage F) (DataChunk F) :=
  .ofMember ⟨(·.chunk), fun m p => { m with chunk := p }, fun _ _ => rfl, fun _ _ _ => rfl,
    fun _ => rfl⟩

def storedImage : Part (StoreImageRequest F) (ImageCapture F) :=
  .ofMember ⟨(·.image), fun m p => { m with image := p }, fun _ _ => rfl, fun _ _ _ => rfl,
    fun _ => rfl⟩

/-! ## The functions of the whitelist -/

/-- A function of the whitelist: if the message is of its class, it is stripped. -/
def stripAs (type : MessageType) (strip : type.Content F → type.Content F) :
    Message F → Bool × Message F
  | ⟨actual, content⟩ =>
      if same : actual = type then (true, ⟨type, strip (same ▸ content)⟩)
      else (false, ⟨actual, content⟩)

theorem stripAs_of_ne {type : MessageType} {strip : type.Content F → type.Content F}
    {message : Message F} (differ : message.1 ≠ type) :
    stripAs type strip message = (false, message) := by
  rw [stripAs, dif_neg differ]

variable [Inhabited F]

def stripGetImageResponse : Message F → Bool × Message F :=
  stripAs .getImageResponse fun (imageMessage : GetImageResponse F) =>
    { imageMessage with
      imageResponses := imageMessage.imageResponses.map
        (shot.mutable (image.mutable clearData)) }

def stripLocalGridResponse : Message F → Bool × Message F :=
  stripAs .getLocalGridsResponse fun (gridMessage : GetLocalGridsResponse F) =>
    { gridMessage with
      localGridResponses := gridMessage.localGridResponses.map (localGrid.mutable clearData) }

def stripPointCloudResponse : Message F → Bool × Message F :=
  stripAs .getPointCloudResponse fun (pcMessage : GetPointCloudResponse F) =>
    { pcMessage with
      pointCloudResponses := pcMessage.pointCloudResponses.map (pointCloud.mutable clearData) }

def stripUploadWaypointRequest : Message F → Bool × Message F :=
  stripAs .uploadWaypointSnapshotRequest (chunk.mutable clearData)

def stripUploadEdgeRequest : Message F → Bool × Message F :=
  stripAs .uploadEdgeSnapshotRequest (chunk.mutable clearData)

def stripUploadSnapshotsRequest : Message F → Bool × Message F :=
  stripAs .uploadSnapshotsRequest (chunk.mutable clearData)

def stripDownloadWaypointResponse : Message F → Bool × Message F :=
  stripAs .downloadWaypointSnapshotResponse (chunk.mutable clearData)

def stripDownloadEdgeResponse : Message F → Bool × Message F :=
  stripAs .downloadEdgeSnapshotResponse (chunk.mutable clearData)

def stripRecordDataBlobsRequest : Message F → Bool × Message F :=
  stripAs .recordDataBlobsRequest fun (reqMsg : RecordDataBlobsRequest F) =>
    { reqMsg with blobData := reqMsg.blobData.map clearData }

def stripRecordSignalTickRequest : Message F → Bool × Message F :=
  stripAs .recordSignalTicksRequest fun (reqMsg : RecordSignalTicksRequest F) =>
    { reqMsg with tickData := reqMsg.tickData.map clearData }

def stripStoreImageRequest : Message F → Bool × Message F :=
  stripAs .storeImageRequest (storedImage.mutable (image.mutable clearData))

def stripStoreDataRequest : Message F → Bool × Message F :=
  stripAs .storeDataRequest clearData

def kWhitelistedBytesFieldsMap : List (String × (Message F → Bool × Message F)) :=
  [("bosdyn.api.GetImageResponse", stripGetImageResponse),
    ("bosdyn.api.GetLocalGridsResponse", stripLocalGridResponse),
    ("bosdyn.api.GetPointCloudResponse", stripPointCloudResponse),
    ("bosdyn.api.graph_nav.UploadWaypointSnapshotRequest", stripUploadWaypointRequest),
    ("bosdyn.api.graph_nav.UploadEdgeSnapshotRequest", stripUploadEdgeRequest),
    ("bosdyn.api.graph_nav.UploadSnapshotsRequest", stripUploadSnapshotsRequest),
    ("bosdyn.api.graph_nav.DownloadWaypointSnapshotResponse", stripDownloadWaypointResponse),
    ("bosdyn.api.graph_nav.DownloadEdgeSnapshotResponse", stripDownloadEdgeResponse),
    ("bosdyn.api.RecordDataBlobsRequest", stripRecordDataBlobsRequest),
    ("bosdyn.api.RecordSignalTicksRequest", stripRecordSignalTickRequest),
    ("bosdyn.api.StoreImageRequest", stripStoreImageRequest),
    ("bosdyn.api.StoreDataRequest", stripStoreDataRequest)]

/-- `StripLargeByteFields(proto_message)`. -/
def stripLargeByteFields (protoMessage : Message F) : Message F :=
  match kWhitelistedBytesFieldsMap.lookup protoMessage.1.typeName with
  | some stripMessageFunc => (stripMessageFunc protoMessage).2
  | none => protoMessage

/-! ## What is stripped -/

/-- The way to the whitelisted fields of a message. -/
def MessageType.walk : (type : MessageType) → FieldWalk (type.Content F) (List UInt8)
  | getImageResponse => .each imageResponses (.through shot (.through image (.field data)))
  | getLocalGridsResponse => .each localGridResponses (.through localGrid (.field data))
  | getPointCloudResponse => .each pointCloudResponses (.through pointCloud (.field data))
  | uploadWaypointSnapshotRequest | uploadEdgeSnapshotRequest | uploadSnapshotsRequest
  | downloadWaypointSnapshotResponse | downloadEdgeSnapshotResponse =>
      .through chunk (.field data)
  | recordDataBlobsRequest => .each blobData (.field data)
  | recordSignalTicksRequest => .each tickData (.field data)
  | storeImageRequest => .through storedImage (.through image (.field data))
  | storeDataRequest => .field data
  | other _ => .nowhere

def bytesFields : FieldWalk (Message F) (List UInt8) := .ofType MessageType.walk

theorem stripLargeByteFields_of_lookup {message : Message F}
    {stripMessageFunc : Message F → Bool × Message F}
    (found : kWhitelistedBytesFieldsMap.lookup message.1.typeName = some stripMessageFunc) :
    stripLargeByteFields message = (stripMessageFunc message).2 := by
  rw [stripLargeByteFields, found]

/-- No function of the whitelist touches a message of a class that the list does not name,
whatever the name of the class is. -/
theorem stripLargeByteFields_other (name : String) (fields : F) :
    stripLargeByteFields ⟨.other name, fields⟩ = (⟨.other name, fields⟩ : Message F) := by
  have differ : ∀ type ≠ MessageType.other name,
      (⟨.other name, fields⟩ : Message F).1 ≠ type := fun _ known => known.symm
  have untouched : ∀ entry ∈ kWhitelistedBytesFieldsMap,
      entry.2 ⟨.other name, fields⟩ = (false, (⟨.other name, fields⟩ : Message F)) := by
    simp only [kWhitelistedBytesFieldsMap, List.forall_mem_cons]
    refine ⟨?_, ?_, ?_, ?_, ?_, ?_, ?_, ?_, ?_, ?_, ?_, ?_, ?_⟩
    case refine_13 => exact fun _ member => absurd member List.not_mem_nil
    all_goals exact stripAs_of_ne (differ _ MessageType.noConfusion)
  cases found : (kWhitelistedBytesFieldsMap (F := F)).lookup (MessageType.other name).typeName with
  | none => rw [stripLargeByteFields, found]
  | some stripMessageFunc =>
      obtain ⟨before, after, split, _⟩ := List.lookup_eq_some_iff.mp found
      have entry := untouched ((MessageType.other name).typeName, stripMessageFunc) (by
        rw [split]
        exact List.mem_append_cons_self)
      exact (stripLargeByteFields_of_lookup found).trans (congrArg Prod.snd entry)

/-- Stripping clears the fields of the whitelist by mutable accessors. -/
theorem stripLargeByteFields_eq (message : Message F) :
    stripLargeByteFields message = bytesFields.clear [] message := by
  obtain ⟨type, content⟩ := message
  cases type with
  | other name => exact stripLargeByteFields_other name content
  -- The whitelist has the function of the class, and that takes the way of the walk.
  | _ => exact (stripLargeByteFields_of_lookup rfl).trans rfl

/-- Every part on the way to a field of the whitelist is there. -/
def PathsPresent : Message F → Prop
  | ⟨.getImageResponse, m⟩ => ∀ response ∈ m.imageResponses,
      ∃ shot, response.shot = some shot ∧ shot.image.isSome
  | ⟨.getLocalGridsResponse, m⟩ =>
      ∀ response ∈ m.localGridResponses, response.localGrid.isSome
  | ⟨.getPointCloudResponse, m⟩ => ∀ response ∈ m.pointCloudResponses,
      ∃ cloud, response.cloudData = some (.pointCloud cloud)
  | ⟨.uploadWaypointSnapshotRequest, m⟩ | ⟨.uploadEdgeSnapshotRequest, m⟩
  | ⟨.uploadSnapshotsRequest, m⟩ | ⟨.downloadWaypointSnapshotResponse, m⟩
  | ⟨.downloadEdgeSnapshotResponse, m⟩ => m.chunk.isSome
  | ⟨.storeImageRequest, m⟩ => ∃ image, m.image = some image ∧ image.image.isSome
  | ⟨.recordDataBlobsRequest, _⟩ | ⟨.recordSignalTicksRequest, _⟩ | ⟨.storeDataRequest, _⟩
  | ⟨.other _, _⟩ => True

theorem pointCloud_isSome_iff (response : PointCloudResponse F) :
    (pointCloud.get response).isSome ↔
      ∃ cloud, response.cloudData = some (.pointCloud cloud) := by
  obtain ⟨cloudData, others⟩ := response
  cases cloudData with
  | none => simp [pointCloud]
  | some alternative =>
      cases alternative with
      | pointCloud cloud => exact iff_of_true rfl ⟨cloud, rfl⟩
      | lidarCloud _ => simp [pointCloud]

theorem complete_iff_pathsPresent (message : Message F) :
    bytesFields.Complete message ↔ PathsPresent message := by
  obtain ⟨type, content⟩ := message
  cases type with
  | getImageResponse =>
      exact forall₂_congr fun response _ => exists_congr fun capture =>
        and_congr_right fun _ => FieldWalk.complete_through_field image data capture
  | getLocalGridsResponse =>
      exact forall₂_congr fun response _ =>
        FieldWalk.complete_through_field localGrid data response
  | getPointCloudResponse =>
      exact forall₂_congr fun response _ =>
        (FieldWalk.complete_through_field pointCloud data response).trans
          (pointCloud_isSome_iff response)
  | storeImageRequest =>
      exact exists_congr fun capture =>
        and_congr_right fun _ => FieldWalk.complete_through_field image data capture
  | recordDataBlobsRequest => exact iff_of_true (fun _ _ => trivial) trivial
  | recordSignalTicksRequest => exact iff_of_true (fun _ _ => trivial) trivial
  | storeDataRequest => exact Iff.rfl
  | other name => exact Iff.rfl
  | _ => exact FieldWalk.complete_through_field chunk data content

/-- The fields of the whitelist are empty afterwards, everything else is as it was, a
message of any other class is unchanged, and stripping again changes nothing. -/
structure StripsBytesAlone (message : Message F) : Prop where
  emptied : ∀ bytes ∈ bytesFields.fields (stripLargeByteFields message), bytes = []
  frame : bytesFields.SameOutside [] message (stripLargeByteFields message)
  unlisted : ∀ name fields, message = ⟨.other name, fields⟩ →
    stripLargeByteFields message = message
  again : stripLargeByteFields (stripLargeByteFields message) = stripLargeByteFields message

theorem sameOutside_strip_iff (message : Message F) :
    bytesFields.SameOutside [] message (stripLargeByteFields message) ↔ PathsPresent message := by
  rw [stripLargeByteFields_eq, bytesFields.sameOutside_clear_iff, complete_iff_pathsPresent]

theorem eq_nil_of_mem_strip (message : Message F) :
    ∀ bytes ∈ bytesFields.fields (stripLargeByteFields message), bytes = [] := by
  intro bytes member
  rw [stripLargeByteFields_eq] at member
  exact bytesFields.eq_blank_of_mem_clear [] member

/-- Stripping changes the fields of the whitelist alone exactly if it makes no part. -/
theorem stripsBytesAlone_iff (message : Message F) :
    StripsBytesAlone message ↔ PathsPresent message := by
  have frame := sameOutside_strip_iff message
  refine ⟨fun strips => frame.mp strips.frame, fun present => ?_⟩
  refine ⟨eq_nil_of_mem_strip message, frame.mpr present, ?_, ?_⟩
  · rintro name fields rfl
    exact stripLargeByteFields_other name fields
  · rw [stripLargeByteFields_eq, stripLargeByteFields_eq, bytesFields.clear_clear]

/-- A response whose cloud comes from a lidar loses it to a new point cloud, and an image
response without a shot gets one with an image in it. -/
theorem not_stripsBytesAlone_absent :
    ¬StripsBytesAlone (⟨.getPointCloudResponse, ⟨[⟨some (.lidarCloud [7]), []⟩], []⟩⟩ :
        Message (List UInt8)) ∧
      stripLargeByteFields (⟨.getPointCloudResponse, ⟨[⟨some (.lidarCloud [7]), []⟩], []⟩⟩ :
        Message (List UInt8)) =
        ⟨.getPointCloudResponse, ⟨[⟨some (.pointCloud ⟨[], []⟩), []⟩], []⟩⟩ ∧
      ¬StripsBytesAlone (⟨.getImageResponse, ⟨[⟨none, []⟩], []⟩⟩ : Message (List UInt8)) ∧
      stripLargeByteFields (⟨.getImageResponse, ⟨[⟨none, []⟩], []⟩⟩ : Message (List UInt8)) =
        ⟨.getImageResponse, ⟨[⟨some ⟨some ⟨[], []⟩, []⟩, []⟩], []⟩⟩ := by
  refine ⟨fun strips => ?_, rfl, fun strips => ?_, rfl⟩
  · have present := (sameOutside_strip_iff _).mp strips.frame
    obtain ⟨cloud, lidar⟩ := present _ (List.mem_singleton_self _)
    cases lidar
  · have present := (sameOutside_strip_iff _).mp strips.frame
    obtain ⟨capture, absent, _⟩ := present _ (List.mem_singleton_self _)
    cases absent

end SpotSdk.Common.StripMessages
