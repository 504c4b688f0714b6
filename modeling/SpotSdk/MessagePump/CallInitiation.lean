import SpotSdk.Common.RpcErrorCode
import SpotSdk.DataChunk.DataChunking

/-!
# Initiation of calls

Every kind of call sets the logging control of its requests, runs the request processors
on them and starts a call with the messages it made of them. Processors may keep a state
of their own, and the context of the call counts as part of it.
-/

namespace SpotSdk.Client

open Common

inductive LogRequestMode
  | disabled
  | enabled
  | default
  deriving DecidableEq, Repr

/-- `kRPCTimeoutNotSpecified`, in nanoseconds. -/
def rpcTimeoutNotSpecified : Int := -1000000

/-- `kDefaultRPCTimeout`. -/
def defaultRPCTimeout : Int := 30000000000

structure RPCParameters where
  loggingControl : LogRequestMode := .default
  timeout : Int := rpcTimeoutNotSpecified
  deriving DecidableEq, Repr

structure RequestHeader where
  requestTimestamp : Int := 0
  clientName : String := ""
  disableRpcLogging : Bool := false
  deriving DecidableEq, Repr

/-- A message with a request header. -/
structure RequestMessage (B : Type) where
  header : RequestHeader := {}
  body : B
  deriving DecidableEq, Repr

/-- `RequestProcessor::Process`, over the states `σ` of the processors. -/
structure RequestProcessor (σ : Type) where
  process : (B : Type) → σ → RequestMessage B → σ × RequestMessage B × Status

/-- `CommonRequestProcessor`, over the clock. -/
def commonRequestProcessor {σ : Type} (nowNsec : σ → Int) (clientName : String) :
    RequestProcessor σ where
  process _ s request :=
    (s, { request with
      header := { request.header with
        clientName := clientName
        requestTimestamp := nowNsec s } }, ⟨SDKErrorCode.success.code, ""⟩)

/-- The members of `ServiceClient` that initiate calls. -/
structure ServiceClient (σ : Type) where
  rpcParameters : RPCParameters := { timeout := defaultRPCTimeout }
  requestProcessors : List (RequestProcessor σ) := []

/-- The promise is set with a status, or a call is started with its messages. -/
inductive Initiation (W : Type)
  | refused (status : Status)
  | started (messages : List W)

/-- A message that a call writes. A chunk and a wrapper of a chunk come with the message
that was serialized. -/
inductive WireMessage (B : Type)
  | request (message : RequestMessage B)
  | chunk (chunk : DataChunk) (whole : RequestMessage B)
  | wrapper (message : RequestMessage DataChunk) (whole : RequestMessage B)

section Processing

variable {σ B : Type}

/-- The loop of `RequestProcessorChain::Process`, with the status so far. -/
def processRequestFrom (s : σ) (request : RequestMessage B) :
    Status → List (RequestProcessor σ) → σ × RequestMessage B × Status
  | status, [] => (s, request, status)
  | _, processor :: rest =>
      let processed := processor.process B s request
      if !processed.2.2.ok then processed
      else processRequestFrom processed.1 processed.2.1 processed.2.2 rest

/-- `RequestProcessorChain::Process`. -/
def processRequest (chain : List (RequestProcessor σ)) (s : σ) (request : RequestMessage B) :
    σ × RequestMessage B × Status :=
  processRequestFrom s request ⟨SDKErrorCode.success.code, ""⟩ chain

def setLoggingControl (loggingControl : LogRequestMode) (request : RequestMessage B) :
    RequestMessage B :=
  if loggingControl ≠ .default then
    { request with
      header := { request.header with disableRpcLogging := loggingControl = .disabled } }
  else request

/-- `MessageToDataChunks`, on what serialization gives. -/
def messageToDataChunks (serialized : Option (List UInt8)) :
    Option (Except Status (List DataChunk)) :=
  match serialized with
  | none => some (.error ⟨SDKErrorCode.genericSDKError.code, "Could not serialize message"⟩)
  | some buffer => (stringToDataChunks buffer []).map .ok

end Processing

namespace ServiceClient

variable {σ B : Type} (client : ServiceClient σ)

def combineRPCParameters (parameters : RPCParameters) : RPCParameters :=
  let parametersToUse := client.rpcParameters
  let parametersToUse :=
    if parameters.loggingControl ≠ .default then
      { parametersToUse with loggingControl := parameters.loggingControl }
    else parametersToUse
  if parameters.timeout ≠ rpcTimeoutNotSpecified then
    { parametersToUse with timeout := parameters.timeout }
  else parametersToUse

def setRPCParameters (parameters : RPCParameters) : ServiceClient σ :=
  { client with rpcParameters := client.combineRPCParameters parameters }

/-- `SetLoggingControl` and the processors, on one request. -/
def prepare (loggingControl : LogRequestMode) (s : σ) (request : RequestMessage B) :
    σ × RequestMessage B × Status :=
  processRequest client.requestProcessors s (setLoggingControl loggingControl request)

/-- The loop over the requests of `InitiateRequestStreamAsyncCall`. -/
def prepareAll (loggingControl : LogRequestMode) :
    σ → List (RequestMessage B) → Except Status (List (RequestMessage B))
  | _, [] => .ok []
  | s, request :: rest =>
      let prepared := client.prepare loggingControl s request
      if !prepared.2.2.ok then .error prepared.2.2
      else (prepareAll loggingControl prepared.1 rest).map (prepared.2.1 :: ·)

/-- The loop over the chunks of `InitiateRequestStreamAsyncCallWithWrappedChunking`. -/
def wrapChunks : σ → List DataChunk → Except Status (List (RequestMessage DataChunk))
  | _, [] => .ok []
  | s, chunk :: rest =>
      let processed := processRequest client.requestProcessors s { body := chunk }
      if !processed.2.2.ok then .error processed.2.2
      else (wrapChunks processed.1 rest).map (processed.2.1 :: ·)

/-- The status of every initiation when the pump creates no call. -/
def pumpShutDown : Status :=
  ⟨RPCErrorCode.clientCancelledOperationError.code, "MessagePump has shut down"⟩

/-- What the calls with one request that is written as it is have in common. -/
def initiateSingle (pumpOpen : Bool) (s : σ) (request : RequestMessage B)
    (parameters : RPCParameters) : Initiation (WireMessage B) :=
  if !pumpOpen then .refused pumpShutDown
  else
    let parametersToUse := client.combineRPCParameters parameters
    let prepared := client.prepare parametersToUse.loggingControl s request
    if !prepared.2.2.ok then .refused prepared.2.2 else .started [.request prepared.2.1]

/-- `InitiateAsyncCall`. -/
def initiateAsyncCall (pumpOpen : Bool) (s : σ) (request : RequestMessage B)
    (parameters : RPCParameters) : Initiation (WireMessage B) :=
  client.initiateSingle pumpOpen s request parameters

/-- `InitiateResponseStreamAsyncCall`. -/
def initiateResponseStreamAsyncCall (pumpOpen : Bool) (s : σ) (request : RequestMessage B)
    (parameters : RPCParameters) : Initiation (WireMessage B) :=
  client.initiateSingle pumpOpen s request parameters

/-- `InitiateRequestStreamAsyncCall`, absent where it reads the first of no requests. -/
def initiateRequestStreamAsyncCall (pumpOpen : Bool) (s : σ) (requests : List (RequestMessage B))
    (parameters : RPCParameters) : Option (Initiation (WireMessage B)) :=
  let parametersToUse := client.combineRPCParameters parameters
  if !pumpOpen then some (.refused pumpShutDown)
  else
    match client.prepareAll parametersToUse.loggingControl s requests with
    | .error status => some (.refused status)
    | .ok [] => none
    | .ok (first :: rest) => some (.started ((first :: rest).map .request))

variable (serialize : RequestMessage B → Option (List UInt8))

/-- What the calls with a request that is written in plain chunks have in common. Absent
where the chunking throws. -/
def initiateChunked (pumpOpen : Bool) (s : σ) (request : RequestMessage B)
    (parameters : RPCParameters) : Option (Initiation (WireMessage B)) :=
  let parametersToUse := client.combineRPCParameters parameters
  if !pumpOpen then some (.refused pumpShutDown)
  else
    let prepared := client.prepare parametersToUse.loggingControl s request
    if !prepared.2.2.ok then some (.refused prepared.2.2)
    else
      match messageToDataChunks (serialize prepared.2.1) with
      | none => none
      | some (.error status) => some (.refused status)
      | some (.ok chunks) => some (.started (chunks.map (.chunk · prepared.2.1)))

/-- `InitiateRequestStreamAsyncCallWithChunking`. -/
def initiateRequestStreamAsyncCallWithChunking (pumpOpen : Bool) (s : σ)
    (request : RequestMessage B) (parameters : RPCParameters) :
    Option (Initiation (WireMessage B)) :=
  client.initiateChunked serialize pumpOpen s request parameters

/-- `InitiateRequestResponseStreamAsyncCallWithChunking`. -/
def initiateRequestResponseStreamAsyncCallWithChunking (pumpOpen : Bool) (s : σ)
    (request : RequestMessage B) (parameters : RPCParameters) :
    Option (Initiation (WireMessage B)) :=
  client.initiateChunked serialize pumpOpen s request parameters

/-- `InitiateRequestStreamAsyncCallWithWrappedChunking`: the wrappers are new messages
whose logging control is not set. -/
def initiateRequestStreamAsyncCallWithWrappedChunking (pumpOpen : Bool) (s : σ)
    (request : RequestMessage B) (parameters : RPCParameters) :
    Option (Initiation (WireMessage B)) :=
  let parametersToUse := client.combineRPCParameters parameters
  if !pumpOpen then some (.refused pumpShutDown)
  else
    let prepared := client.prepare parametersToUse.loggingControl s request
    if !prepared.2.2.ok then some (.refused prepared.2.2)
    else
      match messageToDataChunks (serialize prepared.2.1) with
      | none => none
      | some (.error status) => some (.refused status)
      | some (.ok chunks) =>
          match client.wrapChunks prepared.1 chunks with
          | .error status => some (.refused status)
          | .ok wrappers => some (.started (wrappers.map (.wrapper · prepared.2.1)))

end ServiceClient

/-! ## Logging control on the wire -/

/-- The request headers that a message carries, that of a serialized message included. -/
def WireMessage.headers {B : Type} : WireMessage B → List RequestHeader
  | request message => [message.header]
  | chunk _ whole => [whole.header]
  | wrapper message whole => [message.header, whole.header]

/-- The ways to initiate a call, with their requests. -/
inductive CallInput (B : Type)
  | asyncCall (request : RequestMessage B)
  | requestStream (requests : List (RequestMessage B))
  | requestStreamWithChunking (request : RequestMessage B)
  | requestStreamWithWrappedChunking (request : RequestMessage B)
  | responseStream (request : RequestMessage B)
  | requestResponseStreamWithChunking (request : RequestMessage B)

section Logging

variable {σ B : Type} (client : ServiceClient σ)
  (serialize : RequestMessage B → Option (List UInt8)) (pumpOpen : Bool) (s : σ)
  (parameters : RPCParameters)

/-- Initiating a call in any of the ways. -/
def ServiceClient.initiate : CallInput B → Option (Initiation (WireMessage B))
  | .asyncCall request => some (client.initiateAsyncCall pumpOpen s request parameters)
  | .requestStream requests =>
      client.initiateRequestStreamAsyncCall pumpOpen s requests parameters
  | .requestStreamWithChunking request =>
      client.initiateRequestStreamAsyncCallWithChunking serialize pumpOpen s request parameters
  | .requestStreamWithWrappedChunking request =>
      client.initiateRequestStreamAsyncCallWithWrappedChunking serialize pumpOpen s request
        parameters
  | .responseStream request =>
      some (client.initiateResponseStreamAsyncCall pumpOpen s request parameters)
  | .requestResponseStreamWithChunking request =>
      client.initiateRequestResponseStreamAsyncCallWithChunking serialize pumpOpen s request
        parameters

/-- The logging control of every header that is written. -/
def LoggingDisabledIs (disabled : Bool) (messages : List (WireMessage B)) : Prop :=
  ∀ message ∈ messages, ∀ header ∈ message.headers, header.disableRpcLogging = disabled

/-- Every header on the wire disables logging exactly when the parameters do. -/
def HonoursLogging (input : CallInput B) : Prop :=
  ∀ messages, client.initiate serialize pumpOpen s parameters input =
      some (.started messages) →
    LoggingDisabledIs
      (decide ((client.combineRPCParameters parameters).loggingControl = .disabled)) messages

/-- A processor leaves the logging control of a request. -/
def RequestProcessor.KeepsLogging (processor : RequestProcessor σ) : Prop :=
  ∀ (B : Type) (s : σ) (request : RequestMessage B),
    (processor.process B s request).2.1.header.disableRpcLogging =
      request.header.disableRpcLogging

/-- The processors accept messages one after the other. -/
def AcceptsInTurn {M : Type} (chain : List (RequestProcessor σ)) :
    σ → List (RequestMessage M) → Prop
  | _, [] => True
  | s, message :: rest =>
      (processRequest chain s message).2.2.ok = true ∧
        AcceptsInTurn chain (processRequest chain s message).1 rest

/-- The pump takes calls, the request is accepted and split into chunks, and the wrappers
of the chunks are accepted. -/
def WrappedCallStarts (request : RequestMessage B) : Prop :=
  let combined := client.combineRPCParameters parameters
  let prepared := processRequest client.requestProcessors s
    (setLoggingControl combined.loggingControl request)
  pumpOpen = true ∧ prepared.2.2.ok = true ∧
    ∃ buffer chunks, serialize prepared.2.1 = some buffer ∧
      stringToDataChunks buffer [] = some chunks ∧
      AcceptsInTurn client.requestProcessors prepared.1
        (chunks.map fun chunk => ({ body := chunk } : RequestMessage DataChunk))

/-- Logging is disabled, and a call with wrapped chunks starts. -/
def LoggingLeaks (input : CallInput B) : Prop :=
  ∃ request, input = .requestStreamWithWrappedChunking request ∧
    (client.combineRPCParameters parameters).loggingControl = .disabled ∧
      WrappedCallStarts client serialize pumpOpen s parameters request

end Logging

section Headers

variable {σ B : Type} {client : ServiceClient σ}
  {serialize : RequestMessage B → Option (List UInt8)} {pumpOpen : Bool} {s : σ}
  {parameters : RPCParameters} {mode : LogRequestMode} {chain : List (RequestProcessor σ)}
  {request : RequestMessage B} {requests prepared : List (RequestMessage B)}
  {chunks : List DataChunk} {wrappers : List (RequestMessage DataChunk)}

theorem processRequestFrom_keepsLogging (keeps : ∀ p ∈ chain, p.KeepsLogging) (s : σ)
    (request : RequestMessage B) (status : Status) :
    (processRequestFrom s request status chain).2.1.header.disableRpcLogging =
      request.header.disableRpcLogging := by
  induction chain generalizing s request status with
  | nil => rfl
  | cons processor rest ih =>
      have first := keeps processor List.mem_cons_self B s request
      rw [processRequestFrom]
      split
      · exact first
      · rw [ih fun p later => keeps p (List.mem_cons_of_mem _ later)]
        exact first

theorem processRequest_keepsLogging (keeps : ∀ p ∈ chain, p.KeepsLogging) (s : σ)
    (request : RequestMessage B) :
    (processRequest chain s request).2.1.header.disableRpcLogging =
      request.header.disableRpcLogging :=
  processRequestFrom_keepsLogging keeps s request _

/-- A prepared request has the logging control that was asked for. -/
theorem prepare_disableRpcLogging (keeps : ∀ p ∈ client.requestProcessors, p.KeepsLogging)
    (set : mode ≠ .default) (s : σ) (request : RequestMessage B) :
    (client.prepare mode s request).2.1.header.disableRpcLogging =
      decide (mode = .disabled) := by
  rw [ServiceClient.prepare, processRequest_keepsLogging keeps, setLoggingControl, if_pos set]

/-- The loop prepares its first request, and then the others from the state it left. -/
theorem prepareAll_cons_ok
    (result : client.prepareAll mode s (request :: requests) = .ok prepared) :
    ∃ others, prepared = (client.prepare mode s request).2.1 :: others ∧
      client.prepareAll mode (client.prepare mode s request).1 requests = .ok others := by
  rw [ServiceClient.prepareAll] at result
  split at result
  · cases result
  · cases tail : client.prepareAll mode (client.prepare mode s request).1 requests with
    | error status =>
        rw [tail] at result
        cases result
    | ok others =>
        rw [tail] at result
        cases result
        exact ⟨others, rfl, rfl⟩

theorem prepareAll_disableRpcLogging (keeps : ∀ p ∈ client.requestProcessors, p.KeepsLogging)
    (set : mode ≠ .default) (result : client.prepareAll mode s requests = .ok prepared) :
    ∀ message ∈ prepared, message.header.disableRpcLogging = decide (mode = .disabled) := by
  induction requests generalizing s prepared with
  | nil =>
      cases result
      exact fun message inside => absurd inside List.not_mem_nil
  | cons request rest ih =>
      obtain ⟨others, rfl, tail⟩ := prepareAll_cons_ok result
      intro message inside
      cases inside with
      | head => exact prepare_disableRpcLogging keeps set s request
      | tail _ later => exact ih tail message later

/-- The loop wraps its first chunk, and then the others from the state it left. -/
theorem wrapChunks_cons_ok {chunk : DataChunk}
    (result : client.wrapChunks s (chunk :: chunks) = .ok wrappers) :
    ∃ others,
      wrappers = (processRequest client.requestProcessors s { body := chunk }).2.1 :: others ∧
      client.wrapChunks (processRequest client.requestProcessors s
        ({ body := chunk } : RequestMessage DataChunk)).1 chunks = .ok others := by
  rw [ServiceClient.wrapChunks] at result
  split at result
  · cases result
  · cases tail : client.wrapChunks (processRequest client.requestProcessors s
        ({ body := chunk } : RequestMessage DataChunk)).1 chunks with
    | error status =>
        rw [tail] at result
        cases result
    | ok others =>
        rw [tail] at result
        cases result
        exact ⟨others, rfl, rfl⟩

/-- A wrapper keeps the default of the field, whatever the parameters are. -/
theorem wrapChunks_disableRpcLogging (keeps : ∀ p ∈ client.requestProcessors, p.KeepsLogging)
    (result : client.wrapChunks s chunks = .ok wrappers) :
    ∀ message ∈ wrappers, message.header.disableRpcLogging = false := by
  induction chunks generalizing s wrappers with
  | nil =>
      cases result
      exact fun message inside => absurd inside List.not_mem_nil
  | cons chunk rest ih =>
      obtain ⟨others, rfl, tail⟩ := wrapChunks_cons_ok result
      intro message inside
      cases inside with
      | head => exact processRequest_keepsLogging keeps s { body := chunk }
      | tail _ later => exact ih tail message later

/-- All chunks are wrapped exactly when the processors accept every wrapper in turn. -/
theorem wrapChunks_ok_iff :
    (∃ wrappers, client.wrapChunks s chunks = .ok wrappers) ↔
      AcceptsInTurn client.requestProcessors s
        (chunks.map fun chunk => ({ body := chunk } : RequestMessage DataChunk)) := by
  induction chunks generalizing s with
  | nil => exact iff_of_true ⟨[], rfl⟩ trivial
  | cons chunk rest ih =>
      rw [ServiceClient.wrapChunks, List.map_cons, AcceptsInTurn, ← ih]
      cases accepted : (processRequest client.requestProcessors s
          ({ body := chunk } : RequestMessage DataChunk)).2.2.ok with
      | false => simp
      | true =>
          cases client.wrapChunks (processRequest client.requestProcessors s
              ({ body := chunk } : RequestMessage DataChunk)).1 rest with
          | error status => simp [Except.map]
          | ok others => simp [Except.map]

theorem wrapChunks_length (result : client.wrapChunks s chunks = .ok wrappers) :
    wrappers.length = chunks.length := by
  induction chunks generalizing s wrappers with
  | nil =>
      cases result
      rfl
  | cons chunk rest ih =>
      obtain ⟨others, rfl, tail⟩ := wrapChunks_cons_ok result
      rw [List.length_cons, List.length_cons, ih tail]

/-- Splitting gives at least one chunk. -/
theorem stringToDataChunks_ne_nil {buffer : List UInt8}
    (split : stringToDataChunks buffer [] = some chunks) : chunks ≠ [] := by
  rw [stringToDataChunks, Option.map_eq_some_iff] at split
  obtain ⟨pieces, split, rfl⟩ := split
  rw [chunksFrom] at split
  split at split
  · split at split
    · cases split
    · cases split
      exact List.cons_ne_nil _ _
  · obtain ⟨later, _, rfl⟩ := Option.map_eq_some_iff.mp split
    exact List.cons_ne_nil _ _

theorem initiateSingle_honours (keeps : ∀ p ∈ client.requestProcessors, p.KeepsLogging)
    (set : (client.combineRPCParameters parameters).loggingControl ≠ .default)
    {messages : List (WireMessage B)}
    (started : client.initiateSingle pumpOpen s request parameters = .started messages) :
    LoggingDisabledIs
      (decide ((client.combineRPCParameters parameters).loggingControl = .disabled))
      messages := by
  simp only [ServiceClient.initiateSingle] at started
  split at started
  · cases started
  · split at started
    · cases started
    · cases started
      intro message inside header carried
      obtain rfl := List.mem_singleton.mp inside
      obtain rfl := List.mem_singleton.mp carried
      exact prepare_disableRpcLogging keeps set s request

theorem initiateRequestStream_honours
    (keeps : ∀ p ∈ client.requestProcessors, p.KeepsLogging)
    (set : (client.combineRPCParameters parameters).loggingControl ≠ .default)
    {messages : List (WireMessage B)}
    (started : client.initiateRequestStreamAsyncCall pumpOpen s requests parameters =
      some (.started messages)) :
    LoggingDisabledIs
      (decide ((client.combineRPCParameters parameters).loggingControl = .disabled))
      messages := by
  simp only [ServiceClient.initiateRequestStreamAsyncCall] at started
  split at started
  · cases started
  · split at started
    · cases started
    · cases started
    · next first rest result =>
      cases started
      intro message inside header carried
      obtain ⟨whole, among, rfl⟩ := List.mem_map.mp inside
      obtain rfl := List.mem_singleton.mp carried
      exact prepareAll_disableRpcLogging keeps set result whole among

theorem initiateChunked_honours (keeps : ∀ p ∈ client.requestProcessors, p.KeepsLogging)
    (set : (client.combineRPCParameters parameters).loggingControl ≠ .default)
    {messages : List (WireMessage B)}
    (started : client.initiateChunked serialize pumpOpen s request parameters =
      some (.started messages)) :
    LoggingDisabledIs
      (decide ((client.combineRPCParameters parameters).loggingControl = .disabled))
      messages := by
  simp only [ServiceClient.initiateChunked] at started
  split at started
  · cases started
  · split at started
    · cases started
    · split at started
      · cases started
      · cases started
      · cases started
        intro message inside header carried
        obtain ⟨chunk, _, rfl⟩ := List.mem_map.mp inside
        obtain rfl := List.mem_singleton.mp carried
        exact prepare_disableRpcLogging keeps set s request

theorem messageToDataChunks_ok_iff {serialized : Option (List UInt8)} :
    messageToDataChunks serialized = some (.ok chunks) ↔
      ∃ buffer, serialized = some buffer ∧ stringToDataChunks buffer [] = some chunks := by
  cases serialized with
  | none => simp [messageToDataChunks]
  | some buffer => simp [messageToDataChunks]

/-- A call with wrapped chunks starts with a wrapper of each chunk. -/
theorem initiateWrapped_started_iff {messages : List (WireMessage B)} :
    client.initiateRequestStreamAsyncCallWithWrappedChunking serialize pumpOpen s request
        parameters = some (.started messages) ↔
      let prepared := client.prepare
        (client.combineRPCParameters parameters).loggingControl s request
      pumpOpen = true ∧ prepared.2.2.ok = true ∧
        ∃ buffer chunks wrappers, serialize prepared.2.1 = some buffer ∧
          stringToDataChunks buffer [] = some chunks ∧
          client.wrapChunks prepared.1 chunks = .ok wrappers ∧
          messages = wrappers.map (.wrapper · prepared.2.1) := by
  simp only [ServiceClient.initiateRequestStreamAsyncCallWithWrappedChunking]
  cases pumpOpen with
  | false => simp
  | true =>
      cases accepted : (client.prepare
          (client.combineRPCParameters parameters).loggingControl s request).2.2.ok with
      | false => simp
      | true =>
          simp only [Bool.not_true, Bool.false_eq_true, if_false, true_and]
          constructor
          · intro started
            split at started
            · cases started
            · cases started
            · next chunks split =>
              obtain ⟨buffer, serialized, split⟩ := messageToDataChunks_ok_iff.mp split
              split at started
              · cases started
              · next wrappers wrapped =>
                cases started
                exact ⟨buffer, chunks, wrappers, serialized, split, wrapped, rfl⟩
          · rintro ⟨buffer, chunks, wrappers, serialized, split, wrapped, rfl⟩
            rw [messageToDataChunks_ok_iff.mpr ⟨buffer, serialized, split⟩]
            simp only [wrapped]

/-- Wrapped chunks are the exception: the wrappers do not get the logging control. -/
theorem initiateWrapped_honours_iff
    (keeps : ∀ p ∈ client.requestProcessors, p.KeepsLogging)
    (set : (client.combineRPCParameters parameters).loggingControl ≠ .default) :
    HonoursLogging client serialize pumpOpen s parameters
        (.requestStreamWithWrappedChunking request) ↔
      ¬ ((client.combineRPCParameters parameters).loggingControl = .disabled ∧
        WrappedCallStarts client serialize pumpOpen s parameters request) := by
  constructor
  · rintro honours ⟨disabled, opened, accepted, buffer, chunks, serialized, split, inTurn⟩
    obtain ⟨wrappers, wrapped⟩ := wrapChunks_ok_iff.mpr inTurn
    have wires := honours _ (initiateWrapped_started_iff.mpr
      ⟨opened, accepted, buffer, chunks, wrappers, serialized, split, wrapped, rfl⟩)
    cases wrappers with
    | nil =>
        have none := wrapChunks_length wrapped
        exact stringToDataChunks_ne_nil split (List.length_eq_zero_iff.mp none.symm)
    | cons first rest =>
        have kept := wrapChunks_disableRpcLogging keeps wrapped first List.mem_cons_self
        have asked := wires _ List.mem_cons_self first.header List.mem_cons_self
        rw [kept, disabled] at asked
        cases asked
  · intro safe messages started
    obtain ⟨opened, accepted, buffer, chunks, wrappers, serialized, split, wrapped, rfl⟩ :=
      initiateWrapped_started_iff.mp started
    have enabled : (client.combineRPCParameters parameters).loggingControl ≠ .disabled := by
      intro disabled
      exact safe ⟨disabled, opened, accepted, buffer, chunks, serialized, split,
        wrapChunks_ok_iff.mp ⟨wrappers, wrapped⟩⟩
    intro message inside header carried
    obtain ⟨wrapper, among, rfl⟩ := List.mem_map.mp inside
    rw [WireMessage.headers, List.mem_cons, List.mem_singleton] at carried
    rcases carried with rfl | rfl
    · rw [wrapChunks_disableRpcLogging keeps wrapped wrapper among, decide_eq_false enabled]
    · exact prepare_disableRpcLogging keeps set s request

/-- Every way to initiate a call honours the logging control, but for a call with wrapped
chunks that starts while logging is disabled. -/
theorem honoursLogging_iff (keeps : ∀ p ∈ client.requestProcessors, p.KeepsLogging)
    (set : (client.combineRPCParameters parameters).loggingControl ≠ .default)
    (input : CallInput B) :
    HonoursLogging client serialize pumpOpen s parameters input ↔
      ¬ LoggingLeaks client serialize pumpOpen s parameters input := by
  have plain (other : ∀ request, input ≠ .requestStreamWithWrappedChunking request) :
      ¬ LoggingLeaks client serialize pumpOpen s parameters input := by
    rintro ⟨request, same, _⟩
    exact other request same
  cases input with
  | asyncCall request =>
      apply iff_of_true _ (plain nofun)
      intro messages started
      exact initiateSingle_honours keeps set (Option.some.inj started)
  | requestStream requests =>
      apply iff_of_true _ (plain nofun)
      intro messages started
      exact initiateRequestStream_honours keeps set started
  | requestStreamWithChunking request =>
      apply iff_of_true _ (plain nofun)
      intro messages started
      exact initiateChunked_honours keeps set started
  | requestStreamWithWrappedChunking request =>
      rw [initiateWrapped_honours_iff keeps set, LoggingLeaks]
      simp
  | responseStream request =>
      apply iff_of_true _ (plain nofun)
      intro messages started
      exact initiateSingle_honours keeps set (Option.some.inj started)
  | requestResponseStreamWithChunking request =>
      apply iff_of_true _ (plain nofun)
      intro messages started
      exact initiateChunked_honours keeps set started

theorem commonRequestProcessor_keepsLogging (nowNsec : σ → Int) (clientName : String) :
    (commonRequestProcessor nowNsec clientName).KeepsLogging :=
  fun _ _ _ => rfl

end Headers

/-- A client with the processor that every robot adds. -/
def namedClient : ServiceClient Unit :=
  { requestProcessors := [commonRequestProcessor (fun _ => 0) "client"] }

theorem namedClient_keepsLogging : ∀ p ∈ namedClient.requestProcessors, p.KeepsLogging := by
  intro p inside
  obtain rfl := List.mem_singleton.mp inside
  exact commonRequestProcessor_keepsLogging _ _

theorem honoursLogging_namedClient :
    HonoursLogging namedClient (fun _ => some []) true () { loggingControl := .disabled }
        (.asyncCall { body := () }) ↔
      ¬ LoggingLeaks namedClient (fun _ => some []) true () { loggingControl := .disabled }
        (.asyncCall { body := () }) :=
  honoursLogging_iff namedClient_keepsLogging (by decide) _

/-- One empty request in one wrapped chunk, with logging disabled by the caller. -/
theorem not_honoursLogging_wrapped :
    WrappedCallStarts namedClient (fun _ => some []) true () { loggingControl := .disabled }
        { body := () } ∧
      ¬ HonoursLogging namedClient (fun _ => some []) true () { loggingControl := .disabled }
        (.requestStreamWithWrappedChunking { body := () }) := by
  have split : stringToDataChunks [] [] = some [⟨0, []⟩] := by
    simp [stringToDataChunks, lengthAsInt, chunksFrom, chunkSize]
  have starts : WrappedCallStarts namedClient (fun _ => some []) true ()
      { loggingControl := .disabled } { body := () } :=
    ⟨rfl, rfl, [], [⟨0, []⟩], rfl, split, rfl, trivial⟩
  refine ⟨starts, fun honours => ?_⟩
  exact (initiateWrapped_honours_iff namedClient_keepsLogging (by decide)).mp honours
    ⟨rfl, starts⟩

end SpotSdk.Client
