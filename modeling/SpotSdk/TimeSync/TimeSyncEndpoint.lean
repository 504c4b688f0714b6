import Mathlib.Data.List.Induction
import SpotSdk.Common.Status

/-!
# The state of a time sync endpoint

`TimeSyncEndpoint` keeps the last successful response with the clock identifier
and the round trip taken from it. Its accessors read parts of that state under a
lock of their own.
-/

namespace SpotSdk.Client.TimeSync

open Common

/-- A protobuf duration. -/
structure Duration where
  seconds : Int64 := 0
  nanos : Int32 := 0
  deriving DecidableEq, Repr

/-- A protobuf timestamp. -/
structure Timestamp where
  seconds : Int64 := 0
  nanos : Int32 := 0
  deriving DecidableEq, Repr

def kBillion : Int64 := 1000000000

def durationToNsec (duration : Duration) : Int64 :=
  duration.seconds * kBillion + duration.nanos.toInt64

/-- `SetTimestamp`, which writes both fields. -/
def setTimestamp (nsec : Int64) : Timestamp :=
  let seconds := nsec / kBillion
  let nsecRemainder := nsec - kBillion * seconds
  { seconds := seconds, nanos := nsecRemainder.toInt32 }

/-- How a truncating division splits a time: what is left of it has its sign. -/
theorem truncated_split (n : Int) :
    n.tdiv 1000000000 * 1000000000 + n.tmod 1000000000 = n ∧
      -1000000000 < n.tmod 1000000000 ∧ n.tmod 1000000000 < 1000000000 ∧
      (0 ≤ n ∧ 0 ≤ n.tmod 1000000000 ∨ n ≤ 0 ∧ n.tmod 1000000000 ≤ 0) := by
  refine ⟨Int.tdiv_mul_add_tmod n 1000000000, Int.lt_tmod_of_pos n (by decide),
    Int.tmod_lt_of_pos n (by decide), ?_⟩
  rcases Int.le_total 0 n with pos | neg
  · exact .inl ⟨pos, Int.tmod_nonneg _ pos⟩
  · have opposite := Int.tmod_nonneg 1000000000 (Int.neg_nonneg_of_nonpos neg)
    rw [Int.neg_tmod] at opposite
    exact .inr ⟨neg, by omega⟩

/-- The quotient by which `SetTimestamp` and `SetDuration` split a time. -/
theorem wholeSeconds_toInt (nsec : Int64) :
    (nsec / kBillion).toInt = nsec.toInt.tdiv 1000000000 := by
  have low := Int64.le_toInt nsec
  have high := Int64.toInt_lt nsec
  have billion : kBillion.toInt = 1000000000 := by decide
  have split := truncated_split nsec.toInt
  rw [Int64.toInt_div, billion]
  apply Int.bmod_eq_of_le <;> omega

/-- The remainder that `SetTimestamp` and `SetDuration` leave. -/
theorem nsecRemainder_toInt (nsec : Int64) :
    (nsec - kBillion * (nsec / kBillion)).toInt32.toInt = nsec.toInt.tmod 1000000000 := by
  have low := Int64.le_toInt nsec
  have high := Int64.toInt_lt nsec
  have billion : kBillion.toInt = 1000000000 := by decide
  have split := truncated_split nsec.toInt
  have whole : (kBillion * (nsec / kBillion)).toInt = 1000000000 * nsec.toInt.tdiv 1000000000 := by
    rw [Int64.toInt_mul, wholeSeconds_toInt, billion]
    apply Int.bmod_eq_of_le <;> omega
  have remainder : (nsec - kBillion * (nsec / kBillion)).toInt = nsec.toInt.tmod 1000000000 := by
    rw [Int64.toInt_sub, whole, Int.bmod_eq_of_le (by omega) (by omega)]
    omega
  rw [Int64.toInt_toInt32, remainder]
  apply Int.bmod_eq_of_le <;> omega

/-- The two fields that `SetTimestamp` writes add up to the time it was given. -/
theorem setTimestamp_nsec (nsec : Int64) :
    (setTimestamp nsec).seconds.toInt * 1000000000 + (setTimestamp nsec).nanos.toInt =
      nsec.toInt := by
  rw [setTimestamp, wholeSeconds_toInt, nsecRemainder_toInt, Int.tdiv_mul_add_tmod]

/-- The clock skew of a `RobotTimeConverter`, in nanoseconds. -/
structure RobotTimeConverter where
  clockSkew : Int64
  deriving DecidableEq, Repr

/-- `RobotTimeConverter::RobotTimestampFromLocal`. -/
def RobotTimeConverter.robotTimestampFromLocal (converter : RobotTimeConverter)
    (localTime : Int64) : Timestamp :=
  setTimestamp (localTime + converter.clockSkew)

structure TimeSyncEstimate where
  roundTripTime : Duration := {}
  clockSkew : Duration := {}
  deriving DecidableEq, Repr

structure TimeSyncState where
  bestEstimate : TimeSyncEstimate := {}
  status : Int := 0
  deriving DecidableEq, Repr

/-- `STATUS_OK` of the time sync state. -/
def TimeSyncState.statusOk : Int := 1

structure TimeSyncRoundTrip where
  clientTx : Timestamp := {}
  serverRx : Timestamp := {}
  serverTx : Timestamp := {}
  clientRx : Timestamp := {}
  deriving DecidableEq, Repr

structure TimeSyncUpdateRequest where
  previousRoundTrip : Option TimeSyncRoundTrip := none
  clockIdentifier : String := ""
  deriving DecidableEq, Repr

/-- The response, with the timestamps of its header. -/
structure TimeSyncUpdateResponse where
  requestTimestamp : Timestamp := {}
  requestReceivedTimestamp : Timestamp := {}
  responseTimestamp : Timestamp := {}
  state : TimeSyncState := {}
  clockIdentifier : String := ""
  deriving DecidableEq, Repr

abbrev TimeSyncUpdateResult := Result TimeSyncUpdateResponse

/-- The result of an accessor, whose response is a shared pointer. -/
abbrev PointerResult (α : Type) := Result (Option α)

def timeSyncHelperErrorCategory : ErrorCategory := ⟨"TimeSyncHelperErrorCode", [0]⟩
def establishTimeSyncErrorCategory : ErrorCategory := ⟨"EstablishTimeSyncErrorCode", [0]⟩
def robotTimeSyncErrorCategory : ErrorCategory := ⟨"RobotTimeSyncErrorCode", [0]⟩
def timeSyncStateCategory : ErrorCategory := ⟨"TimeSyncState_Status", [1]⟩

def clockIdentifierUnset : ErrorCode := ⟨timeSyncHelperErrorCategory, 1⟩
def unableToEstablishTimeSync : ErrorCode := ⟨establishTimeSyncErrorCategory, 1⟩
def previousTimeSyncUnavailableYet : ErrorCode := ⟨robotTimeSyncErrorCategory, 1⟩

/-- A result with the given response and the status `SDKErrorCode::Success`. -/
def PointerResult.success {α : Type} (response : α) : PointerResult α :=
  ⟨⟨SDKErrorCode.success.code, ""⟩, some response⟩

/-- A result whose status alone is set. -/
def PointerResult.failure {α : Type} (status : Status) : PointerResult α :=
  ⟨status, none⟩

/-- The members that the lock of a `TimeSyncEndpoint` guards. -/
structure TimeSyncEndpoint where
  previousRoundTrip : TimeSyncRoundTrip := {}
  previousResult : TimeSyncUpdateResult :=
    ⟨⟨previousTimeSyncUnavailableYet, "Result not yet populated"⟩, {}⟩
  clockIdentifier : String := ""
  deriving DecidableEq, Repr

namespace TimeSyncEndpoint

def hasEstablishedTimeSync (endpoint : TimeSyncEndpoint) : Bool :=
  endpoint.previousResult.status.ok &&
    endpoint.previousResult.response.state.status = TimeSyncState.statusOk

/-- `GetRoundTripTime`, which takes the time from a response of its own. -/
def getRoundTripTime (endpoint : TimeSyncEndpoint) : PointerResult Duration :=
  let response : TimeSyncUpdateResponse := {}
  let updateResult := endpoint.previousResult
  if !updateResult.status.ok then .failure updateResult.status
  else .success response.state.bestEstimate.roundTripTime

def getClockIdentifier (endpoint : TimeSyncEndpoint) : PointerResult String :=
  if endpoint.clockIdentifier = "" then
    .failure ⟨clockIdentifierUnset, "Clock identifier cannot be empty."⟩
  else .success endpoint.clockIdentifier

def getClockSkew (endpoint : TimeSyncEndpoint) : PointerResult Duration :=
  let updateResult := endpoint.previousResult
  if !updateResult.status.ok then .failure updateResult.status
  else if updateResult.response.state.status ≠ TimeSyncState.statusOk then
    .failure ⟨⟨timeSyncStateCategory, updateResult.response.state.status⟩,
      "GetClockSkew: Clock synchronization not yet achieved."⟩
  else .success updateResult.response.state.bestEstimate.clockSkew

/-- `GetRobotTimeConverter`, which has no error to return. -/
def getRobotTimeConverter (endpoint : TimeSyncEndpoint) : RobotTimeConverter :=
  ⟨durationToNsec endpoint.previousResult.response.state.bestEstimate.clockSkew⟩

/-- `RobotTimestampFromLocal`. -/
def robotTimestampFromLocal (endpoint : TimeSyncEndpoint) (localTime : Int64) : Timestamp :=
  endpoint.getRobotTimeConverter.robotTimestampFromLocal localTime

/-- The request of `Update`, from what it read of the identifier and the round trip. -/
def updateRequest (clockIdResult : PointerResult String) (previousRoundTrip : TimeSyncRoundTrip) :
    TimeSyncUpdateRequest :=
  match clockIdResult with
  | ⟨status, some clockIdentifier⟩ =>
      if status.ok then
        { clockIdentifier := clockIdentifier, previousRoundTrip := some previousRoundTrip }
      else {}
  | ⟨_, none⟩ => {}

/-- The round trip that `GetNewEstimate` records for the next update. -/
def roundTripOf (response : TimeSyncUpdateResponse) (rxTime : Timestamp) : TimeSyncRoundTrip :=
  { clientTx := response.requestTimestamp
    serverRx := response.requestReceivedTimestamp
    serverTx := response.responseTimestamp
    clientRx := rxTime }

/-- The block of `GetNewEstimate` that updates the state. -/
def updateState (updateResult : TimeSyncUpdateResult) (rxTime : Timestamp) : TimeSyncEndpoint :=
  { previousRoundTrip := roundTripOf updateResult.response rxTime
    previousResult := updateResult
    clockIdentifier := updateResult.response.clockIdentifier }

/-- `GetNewEstimate`, with the answer of `Update` and the time it was received at. -/
def getNewEstimate (endpoint : TimeSyncEndpoint) (updateResult : TimeSyncUpdateResult)
    (rxTime : Timestamp) : Bool × TimeSyncEndpoint :=
  if !updateResult.status.ok then (false, endpoint)
  else (true, updateState updateResult rxTime)

theorem getNewEstimate_failed (endpoint : TimeSyncEndpoint) {updateResult : TimeSyncUpdateResult}
    (h : updateResult.status.ok = false) (rxTime : Timestamp) :
    (endpoint.getNewEstimate updateResult rxTime).2 = endpoint := by
  simp [getNewEstimate, h]

theorem getNewEstimate_ok (endpoint : TimeSyncEndpoint) {updateResult : TimeSyncUpdateResult}
    (h : updateResult.status.ok = true) (rxTime : Timestamp) :
    (endpoint.getNewEstimate updateResult rxTime).2 = updateState updateResult rxTime := by
  simp [getNewEstimate, h]

/-- The outcomes of a sequence of updates, with the times they were received at. -/
abbrev Outcomes := List (TimeSyncUpdateResult × Timestamp)

/-- The endpoint after a sequence of `GetNewEstimate` calls. -/
def estimates (outcomes : Outcomes) : TimeSyncEndpoint :=
  outcomes.foldl (fun endpoint outcome => (endpoint.getNewEstimate outcome.1 outcome.2).2) {}

/-- The last outcome that was a success. -/
def lastSuccessful (outcomes : Outcomes) : Option (TimeSyncUpdateResult × Timestamp) :=
  outcomes.reverse.find? fun outcome => outcome.1.status.ok

theorem lastSuccessful_ok {outcomes : Outcomes} {outcome : TimeSyncUpdateResult × Timestamp}
    (h : lastSuccessful outcomes = some outcome) : outcome.1.status.ok = true := by
  simpa using List.find?_some h

theorem lastSuccessful_append (outcomes : Outcomes)
    (outcome : TimeSyncUpdateResult × Timestamp) :
    lastSuccessful (outcomes ++ [outcome]) =
      if outcome.1.status.ok then some outcome else lastSuccessful outcomes := by
  simp only [lastSuccessful, List.reverse_append, List.reverse_singleton, List.singleton_append,
    List.find?_cons]
  cases outcome.1.status.ok <;> rfl

/-- The state is that of a fresh endpoint, or all taken from the last success. -/
theorem estimates_eq (outcomes : Outcomes) :
    estimates outcomes = match lastSuccessful outcomes with
      | none => {}
      | some (updateResult, rxTime) => updateState updateResult rxTime := by
  induction outcomes using List.reverseRecOn with
  | nil => rfl
  | append_singleton outcomes outcome ih =>
      have step : estimates (outcomes ++ [outcome]) =
          ((estimates outcomes).getNewEstimate outcome.1 outcome.2).2 := by
        simp only [estimates, List.foldl_append, List.foldl_cons, List.foldl_nil]
      rw [step, lastSuccessful_append]
      cases h : outcome.1.status.ok with
      | false =>
          rw [getNewEstimate_failed _ h, ih]
          rfl
      | true =>
          rw [getNewEstimate_ok _ h]
          rfl

end TimeSyncEndpoint

end SpotSdk.Client.TimeSync
