import SpotSdk.Common.StripBytesFields
import SpotSdk.TimeSync.TimeConversions

/-!
# Request headers and the responses to them

A service validates the header of a request before anything else, and fills in the header
of its response: the error, the times, and a copy of the request if an option asks for it.
The copy goes in on another way where the request has no header at all.

The current time is read twice, when a request is received and when the error is set; both
readings are arguments.
-/

namespace SpotSdk.Common.HeaderHandling

open SpotSdk.Client.TimeSync SpotSdk.Common.StripMessages

universe u

structure RequestHeader where
  requestTimestamp : Option Timestamp
  clientName : String
  disableRpcLogging : Bool
  deriving DecidableEq

/-- `CommonError::Code`. -/
inductive Code
  | unspecified
  | ok
  | internalServerError
  | invalidRequest
  deriving DecidableEq

structure CommonError where
  code : Code
  message : String
  deriving DecidableEq

structure ResponseHeader (F : Type u) where
  requestHeader : Option RequestHeader
  requestReceivedTimestamp : Option Timestamp
  responseTimestamp : Option Timestamp
  error : Option CommonError
  request : Option (Message F)

/-- A request of any type that has a header. -/
structure Request (F : Type u) where
  message : Message F
  header : Option RequestHeader

inductive RequestReflectOption
  | noRequestCopy
  | requestCopy
  deriving DecidableEq

variable {F : Type u} [Inhabited F]

/-- `PrepareResponseHeader(request_header, reflected_request, out_header)`. -/
def prepareResponseHeader (now : Int64) (requestHeader : RequestHeader)
    (reflectedRequest : Option (Message F)) (outHeader : ResponseHeader F) :
    ResponseHeader F :=
  let outHeader := { outHeader with
    requestReceivedTimestamp := some (setTimestamp now), requestHeader := some requestHeader }
  match reflectedRequest with
  | some copy => { outHeader with request := some (stripLargeByteFields copy) }
  | none => outHeader

/-- `SetError(code, error_message, out_header)`. -/
def setError (now : Int64) (code : Code) (errorMessage : String)
    (outHeader : ResponseHeader F) : ResponseHeader F :=
  { outHeader with
    error := some ⟨code, errorMessage⟩, responseTimestamp := some (setTimestamp now) }

/-- `SetOk(out_header)`. -/
def setOk (now : Int64) (outHeader : ResponseHeader F) : Bool × ResponseHeader F :=
  (true, setError now .ok "" outHeader)

/-- `SetInvalidRequest(error_message, out_header)`. -/
def setInvalidRequest (now : Int64) (errorMessage : String) (outHeader : ResponseHeader F) :
    Bool × ResponseHeader F :=
  (false, setError now .invalidRequest errorMessage outHeader)

/-- `ValidateRequestHeaderAndRespond(request_header, reflected_request, out_header)`. -/
def validateHeaderAndRespond (received responded : Int64) (requestHeader : RequestHeader)
    (reflectedRequest : Option (Message F)) (outResponseHeader : ResponseHeader F) :
    Bool × ResponseHeader F :=
  let outResponseHeader :=
    prepareResponseHeader received requestHeader reflectedRequest outResponseHeader
  match requestHeader.requestTimestamp with
  | none =>
      setInvalidRequest responded "No request_timestamp message present in header"
        outResponseHeader
  | some timestamp =>
      if timestamp.seconds < 0 ∨ timestamp.nanos < 0 then
        setInvalidRequest responded
          ("Invalid request_timestamp " ++ toString timestamp.seconds.toInt ++ "." ++
            toString timestamp.nanos.toInt ++ " in header.") outResponseHeader
      else if requestHeader.clientName = "" then
        setInvalidRequest responded "Invalid client_name in header" outResponseHeader
      else setOk responded outResponseHeader

/-- `ValidateRequestHeaderAndRespond(request, out_response, response_reflect_option,
invalid_reflect_option)`, on the header of the response. -/
def validateRequestHeaderAndRespond (received responded : Int64) (request : Request F)
    (outHeader : ResponseHeader F)
    (responseReflectOption : RequestReflectOption := .noRequestCopy)
    (invalidReflectOption : RequestReflectOption := .requestCopy) : Bool × ResponseHeader F :=
  match request.header with
  | none =>
      let outHeader := { outHeader with requestReceivedTimestamp := some (setTimestamp received) }
      let outHeader :=
        if invalidReflectOption = .requestCopy then
          { outHeader with request := some request.message }
        else outHeader
      setInvalidRequest responded "No header message present in request" outHeader
  | some header =>
      let reflectedRequest :=
        if responseReflectOption = .requestCopy then some request.message else none
      validateHeaderAndRespond received responded header reflectedRequest outHeader

/-- The deprecated overload `ValidateRequestHeaderAndRespond(request,
response_reflect_option, out_response)`, which leaves the other option at its default. -/
def validateRequestHeaderAndRespondDeprecated (received responded : Int64)
    (request : Request F) (responseReflectOption : RequestReflectOption)
    (outHeader : ResponseHeader F) : Bool × ResponseHeader F :=
  validateRequestHeaderAndRespond received responded request outHeader responseReflectOption

/-! ## What each way leaves -/

section Validating

variable (received responded : Int64) (requestHeader : RequestHeader)
variable (reflectedRequest : Option (Message F)) (outHeader : ResponseHeader F)

/-- The checks that are made: the timestamp is there and neither part of it is negative, and
the client has a name. -/
def Accepted (header : RequestHeader) : Prop :=
  ∃ timestamp, header.requestTimestamp = some timestamp ∧
    (0 ≤ timestamp.seconds.toInt ∧ 0 ≤ timestamp.nanos.toInt) ∧ header.clientName ≠ ""

theorem negative_iff (timestamp : Timestamp) :
    (timestamp.seconds < 0 ∨ timestamp.nanos < 0) ↔
      ¬(0 ≤ timestamp.seconds.toInt ∧ 0 ≤ timestamp.nanos.toInt) := by
  rw [Int64.lt_iff_toInt_lt, Int32.lt_iff_toInt_lt, Int64.toInt_zero, Int32.toInt_zero]
  omega

/-- A header that is accepted sets `CODE_OK`, and any other one is reported. -/
theorem validateHeaderAndRespond_cases :
    Accepted requestHeader ∧
      validateHeaderAndRespond received responded requestHeader reflectedRequest outHeader =
        setOk responded
          (prepareResponseHeader received requestHeader reflectedRequest outHeader) ∨
    ¬Accepted requestHeader ∧ ∃ text,
      validateHeaderAndRespond received responded requestHeader reflectedRequest outHeader =
        setInvalidRequest responded text
          (prepareResponseHeader received requestHeader reflectedRequest outHeader) := by
  rw [validateHeaderAndRespond]
  cases present : requestHeader.requestTimestamp with
  | none =>
      refine Or.inr ⟨?_, _, rfl⟩
      rintro ⟨timestamp, there, _⟩
      rw [present] at there
      cases there
  | some timestamp =>
      have accepted_iff : Accepted requestHeader ↔
          (0 ≤ timestamp.seconds.toInt ∧ 0 ≤ timestamp.nanos.toInt) ∧
            requestHeader.clientName ≠ "" := by
        rw [Accepted, present]
        simp only [Option.some.injEq, exists_eq_left']
      rw [accepted_iff]
      dsimp only
      split
      · rename_i negative
        rw [negative_iff] at negative
        exact Or.inr ⟨fun accepted => negative accepted.1, _, rfl⟩
      · rename_i nonneg
        rw [negative_iff, not_not] at nonneg
        split
        · rename_i unnamed
          exact Or.inr ⟨fun accepted => accepted.2 unnamed, _, rfl⟩
        · rename_i named
          exact Or.inl ⟨⟨nonneg, named⟩, rfl⟩

theorem validateHeaderAndRespond_fst :
    (validateHeaderAndRespond received responded requestHeader reflectedRequest
      outHeader).1 = true ↔ Accepted requestHeader := by
  obtain ⟨accepted, validated⟩ | ⟨rejected, text, reported⟩ := validateHeaderAndRespond_cases
    received responded requestHeader reflectedRequest outHeader
  · rw [validated]
    exact iff_of_true rfl accepted
  · rw [reported]
    exact iff_of_false Bool.false_ne_true rejected

theorem prepareResponseHeader_request :
    (prepareResponseHeader received requestHeader reflectedRequest outHeader).request =
      (reflectedRequest.map stripLargeByteFields).or outHeader.request := by
  cases reflectedRequest with
  | none => rfl
  | some copy => rfl

/-- Whatever the checks give, a reflected request is stored without its large fields. -/
theorem validateHeaderAndRespond_request :
    (validateHeaderAndRespond received responded requestHeader reflectedRequest
      outHeader).2.request =
        (reflectedRequest.map stripLargeByteFields).or outHeader.request := by
  rw [← prepareResponseHeader_request received requestHeader reflectedRequest outHeader]
  obtain ⟨_, validated⟩ | ⟨_, text, reported⟩ := validateHeaderAndRespond_cases
    received responded requestHeader reflectedRequest outHeader
  · rw [validated]
    rfl
  · rw [reported]
    rfl

end Validating

/-! ## The documented behaviour -/

/-- The timestamp is there and later than the epoch, and the client has a name. -/
def HasValidHeader (request : Request F) : Prop :=
  ∃ header, request.header = some header ∧
    (∃ timestamp, header.requestTimestamp = some timestamp ∧ 0 < timestamp.nsec) ∧
      header.clientName ≠ ""

/-- The options ask for a copy of the request. -/
def AsksForCopy (request : Request F) (responseReflectOption : RequestReflectOption)
    (invalidReflectOption : RequestReflectOption) : Prop :=
  (HasValidHeader request ∧ responseReflectOption = .requestCopy) ∨
    (¬HasValidHeader request ∧ invalidReflectOption = .requestCopy)

/-- The header has a copy of the message, without anything in the fields of the whitelist. -/
def StoresCopy (message : Message F) (header : ResponseHeader F) : Prop :=
  ∃ copy, header.request = some copy ∧ (copy = message ∨ copy = stripLargeByteFields message) ∧
    ∀ bytes ∈ bytesFields.fields copy, bytes = []

/-- The call returns whether the request is valid, and stores a copy of it exactly if the
options ask for one. -/
def RespondsAsDocumented (call : Int64 → Int64 → ResponseHeader F → Bool × ResponseHeader F)
    (request : Request F) (responseReflectOption : RequestReflectOption)
    (invalidReflectOption : RequestReflectOption) : Prop :=
  ∀ received responded outHeader,
    ((call received responded outHeader).1 = true ↔ HasValidHeader request) ∧
    (AsksForCopy request responseReflectOption invalidReflectOption →
      StoresCopy request.message (call received responded outHeader).2) ∧
    (¬AsksForCopy request responseReflectOption invalidReflectOption →
      (call received responded outHeader).2.request = outHeader.request)

/-- Without a header, the copy must not be asked for or have nothing to strip. With one, the
parts of its timestamp are not negative exactly if its instant is later than the epoch, or
the client has no name anyway; and the options agree unless the request is valid. -/
def MeetsDocumentation (request : Request F) (responseReflectOption : RequestReflectOption)
    (invalidReflectOption : RequestReflectOption) : Prop :=
  match request.header with
  | none => invalidReflectOption = .requestCopy →
      ∀ bytes ∈ bytesFields.fields request.message, bytes = []
  | some header =>
      (header.clientName = "" ∨ ∀ timestamp, header.requestTimestamp = some timestamp →
        ((0 ≤ timestamp.seconds.toInt ∧ 0 ≤ timestamp.nanos.toInt) ↔ 0 < timestamp.nsec)) ∧
      (HasValidHeader request ∨ responseReflectOption = invalidReflectOption)

section Documented

variable {request : Request F} {header : RequestHeader}
variable (responseReflectOption invalidReflectOption : RequestReflectOption)

omit [Inhabited F] in
theorem hasValidHeader_iff (present : request.header = some header) :
    HasValidHeader request ↔
      (∃ timestamp, header.requestTimestamp = some timestamp ∧ 0 < timestamp.nsec) ∧
        header.clientName ≠ "" := by
  rw [HasValidHeader, present]
  simp only [Option.some.injEq, exists_eq_left']

omit [Inhabited F] in
/-- The checks agree with the documentation exactly on these timestamps. -/
theorem accepted_iff_hasValidHeader (present : request.header = some header) :
    (Accepted header ↔ HasValidHeader request) ↔
      (header.clientName = "" ∨ ∀ timestamp, header.requestTimestamp = some timestamp →
        ((0 ≤ timestamp.seconds.toInt ∧ 0 ≤ timestamp.nanos.toInt) ↔ 0 < timestamp.nsec)) := by
  rw [hasValidHeader_iff present, Accepted]
  by_cases named : header.clientName = ""
  · refine iff_of_true (iff_of_false ?_ ?_) (Or.inl named)
    · exact fun ⟨_, _, _, other⟩ => other named
    · exact fun ⟨_, other⟩ => other named
  · cases stamped : header.requestTimestamp with
    | none => simp
    | some timestamp => simp [named]

/-- Without a header the request fails, and is copied as it is. -/
theorem validateRequestHeaderAndRespond_of_none (received responded : Int64)
    (responseReflectOption invalidReflectOption : RequestReflectOption)
    (outHeader : ResponseHeader F) (absent : request.header = none) :
    (validateRequestHeaderAndRespond received responded request outHeader responseReflectOption
        invalidReflectOption).1 = false ∧
      (validateRequestHeaderAndRespond received responded request outHeader
        responseReflectOption invalidReflectOption).2.request =
          if invalidReflectOption = .requestCopy then some request.message
          else outHeader.request := by
  rw [validateRequestHeaderAndRespond, absent]
  refine ⟨rfl, ?_⟩
  dsimp only [setInvalidRequest, setError]
  split
  · rfl
  · rfl

/-- With a header, the option for invalid requests is not looked at. -/
theorem validateRequestHeaderAndRespond_of_some (received responded : Int64)
    (responseReflectOption invalidReflectOption : RequestReflectOption)
    (outHeader : ResponseHeader F) (present : request.header = some header) :
    ((validateRequestHeaderAndRespond received responded request outHeader responseReflectOption
        invalidReflectOption).1 = true ↔ Accepted header) ∧
      (validateRequestHeaderAndRespond received responded request outHeader
        responseReflectOption invalidReflectOption).2.request =
          if responseReflectOption = .requestCopy then some (stripLargeByteFields request.message)
          else outHeader.request := by
  rw [validateRequestHeaderAndRespond, present]
  dsimp only
  refine ⟨validateHeaderAndRespond_fst received responded header _ outHeader, ?_⟩
  rw [validateHeaderAndRespond_request]
  split
  · rfl
  · rfl

/-- Without a header the request is not valid, so the call is right unless it stores a copy
with something to strip. -/
theorem respondsAsDocumented_of_none (absent : request.header = none) :
    RespondsAsDocumented (fun received responded outHeader =>
        validateRequestHeaderAndRespond received responded request outHeader
          responseReflectOption invalidReflectOption)
      request responseReflectOption invalidReflectOption ↔
        (invalidReflectOption = .requestCopy →
          ∀ bytes ∈ bytesFields.fields request.message, bytes = []) := by
  have invalid : ¬HasValidHeader request := by
    rintro ⟨header, present, _⟩
    rw [absent] at present
    cases present
  have asks : AsksForCopy request responseReflectOption invalidReflectOption ↔
      invalidReflectOption = .requestCopy := by
    simp only [AsksForCopy, invalid, false_and, not_false_eq_true, true_and, false_or]
  constructor
  · intro documented copied
    obtain ⟨_, stores, _⟩ := documented 0 0 ⟨none, none, none, none, none⟩
    obtain ⟨copy, stored, _, empty⟩ := stores (asks.mpr copied)
    rw [(validateRequestHeaderAndRespond_of_none 0 0 responseReflectOption
      invalidReflectOption _ absent).2, if_pos copied] at stored
    rwa [Option.some.inj stored]
  · intro empty received responded outHeader
    obtain ⟨fails, stored⟩ := validateRequestHeaderAndRespond_of_none received responded
      responseReflectOption invalidReflectOption outHeader absent
    refine ⟨?_, ?_, ?_⟩
    · rw [fails]
      exact iff_of_false Bool.false_ne_true invalid
    · intro asked
      have copied := asks.mp asked
      rw [if_pos copied] at stored
      exact ⟨_, stored, Or.inl rfl, empty copied⟩
    · intro notAsked
      rw [stored, if_neg (mt asks.mpr notAsked)]

omit [Inhabited F] in
/-- The option for responses says what both options ask for, unless the request is not valid
and they differ. -/
theorem asksForCopy_iff :
    (AsksForCopy request responseReflectOption invalidReflectOption ↔
      responseReflectOption = .requestCopy) ↔
        (HasValidHeader request ∨ responseReflectOption = invalidReflectOption) := by
  by_cases valid : HasValidHeader request
  · simp only [AsksForCopy, valid, true_and, not_true_eq_false, false_and, or_false, true_or]
  · simp only [AsksForCopy, valid, false_and, not_false_eq_true, true_and, false_or]
    cases responseReflectOption with
    | noRequestCopy => cases invalidReflectOption <;> decide
    | requestCopy => cases invalidReflectOption <;> decide

/-- With a header, the call is right where the checks agree with the documentation, and one
option alone says what both ask for. -/
theorem respondsAsDocumented_of_some (present : request.header = some header) :
    RespondsAsDocumented (fun received responded outHeader =>
        validateRequestHeaderAndRespond received responded request outHeader
          responseReflectOption invalidReflectOption)
      request responseReflectOption invalidReflectOption ↔
        (Accepted header ↔ HasValidHeader request) ∧
          (HasValidHeader request ∨ responseReflectOption = invalidReflectOption) := by
  rw [← asksForCopy_iff]
  constructor
  · intro documented
    obtain ⟨returns, stores, keeps⟩ := documented 0 0 ⟨none, none, none, none, none⟩
    obtain ⟨accepts, stored⟩ := validateRequestHeaderAndRespond_of_some 0 0
      responseReflectOption invalidReflectOption ⟨none, none, none, none, none⟩ present
    refine ⟨accepts.symm.trans returns, fun asked => ?_, fun copied => ?_⟩
    · by_contra notCopied
      obtain ⟨copy, there, _⟩ := stores asked
      rw [stored, if_neg notCopied] at there
      cases there
    · by_contra notAsked
      have unchanged := keeps notAsked
      rw [stored, if_pos copied] at unchanged
      cases unchanged
  · rintro ⟨agree, asks⟩ received responded outHeader
    obtain ⟨accepts, stored⟩ := validateRequestHeaderAndRespond_of_some received responded
      responseReflectOption invalidReflectOption outHeader present
    refine ⟨accepts.trans agree, fun asked => ?_, fun notAsked => ?_⟩
    · rw [if_pos (asks.mp asked)] at stored
      exact ⟨_, stored, Or.inr rfl, eq_nil_of_mem_strip request.message⟩
    · rw [if_neg (mt asks.mpr notAsked)] at stored
      exact stored

theorem respondsAsDocumented_iff :
    RespondsAsDocumented (fun received responded outHeader =>
        validateRequestHeaderAndRespond received responded request outHeader
          responseReflectOption invalidReflectOption)
      request responseReflectOption invalidReflectOption ↔
        MeetsDocumentation request responseReflectOption invalidReflectOption := by
  rw [MeetsDocumentation]
  cases present : request.header with
  | none => exact respondsAsDocumented_of_none _ _ present
  | some header =>
      rw [respondsAsDocumented_of_some _ _ present, accepted_iff_hasValidHeader present]

end Documented

/-- Both overloads do what is documented on exactly these requests and options; the
deprecated one always asks for a copy of an invalid request. -/
theorem validateRequestHeaderAndRespond_documented (request : Request F)
    (responseReflectOption invalidReflectOption : RequestReflectOption) :
    (RespondsAsDocumented (fun received responded outHeader =>
        validateRequestHeaderAndRespond received responded request outHeader
          responseReflectOption invalidReflectOption)
      request responseReflectOption invalidReflectOption ↔
        MeetsDocumentation request responseReflectOption invalidReflectOption) ∧
    (RespondsAsDocumented (fun received responded outHeader =>
        validateRequestHeaderAndRespondDeprecated received responded request
          responseReflectOption outHeader)
      request responseReflectOption .requestCopy ↔
        MeetsDocumentation request responseReflectOption .requestCopy) :=
  ⟨respondsAsDocumented_iff responseReflectOption invalidReflectOption,
    respondsAsDocumented_iff responseReflectOption .requestCopy⟩

/-- With the default options: a request that was sent at the epoch itself is validated, one
without a client name is not copied, and one without a header is copied with its data. -/
theorem not_respondsAsDocumented :
    (∃ request : Request Unit, request.header = some ⟨some ⟨0, 0⟩, "client", false⟩ ∧
      ¬RespondsAsDocumented (fun received responded outHeader =>
          validateRequestHeaderAndRespond received responded request outHeader
            .noRequestCopy .requestCopy) request .noRequestCopy .requestCopy) ∧
    (∃ request : Request Unit, request.header = some ⟨some ⟨1, 0⟩, "", false⟩ ∧
      ¬RespondsAsDocumented (fun received responded outHeader =>
          validateRequestHeaderAndRespond received responded request outHeader
            .noRequestCopy .requestCopy) request .noRequestCopy .requestCopy) ∧
    ∃ request : Request Unit, request = ⟨⟨.storeDataRequest, ⟨[7], ()⟩⟩, none⟩ ∧
      ¬RespondsAsDocumented (fun received responded outHeader =>
          validateRequestHeaderAndRespond received responded request outHeader
            .noRequestCopy .requestCopy) request .noRequestCopy .requestCopy := by
  refine ⟨⟨⟨⟨.storeDataRequest, ⟨[7], ()⟩⟩, _⟩, rfl, ?_⟩,
    ⟨⟨⟨.storeDataRequest, ⟨[7], ()⟩⟩, _⟩, rfl, ?_⟩, ⟨_, rfl, ?_⟩⟩
  · rw [respondsAsDocumented_iff]
    rintro ⟨unnamed | later, _⟩
    · exact absurd unnamed (by decide)
    · exact absurd ((later ⟨0, 0⟩ rfl).mp (by decide)) (by decide)
  · rw [respondsAsDocumented_iff]
    rintro ⟨_, valid | same⟩
    · obtain ⟨header, present, _, named⟩ := valid
      exact named (Option.some.inj present ▸ rfl)
    · cases same
  · rw [respondsAsDocumented_iff]
    intro empty
    have emptied := empty rfl [7] (List.mem_singleton_self _)
    cases emptied

end SpotSdk.Common.HeaderHandling
