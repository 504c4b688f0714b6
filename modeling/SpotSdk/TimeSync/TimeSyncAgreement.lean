import SpotSdk.TimeSync.TimeSyncEndpoint

/-!
# What the time sync accessors agree on

Every accessor is compared with the last successful response, and the functions
of `TimeSyncThread` with each other. Two of them do not fit: `GetRoundTripTime`
reads an empty response, and `RobotTimestampFromLocal` extends an empty status.
-/

namespace SpotSdk.Client.TimeSync

open Common TimeSyncEndpoint

/-- A `TimeSyncThread` as its accessors see it. -/
structure TimeSyncThread where
  endpoint : TimeSyncEndpoint := {}
  threadStopped : Bool := true

namespace TimeSyncThread

/-- The loop of `WaitForSync`, while the state stays the same. The list holds what the
clock reads at each test of the loop; `none` if the loop goes on after the last one. -/
def waitLoop (thread : TimeSyncThread) (endTime : Int64) : List Int64 → Option Bool
  | [] => none
  | now :: rest =>
      if now < endTime then
        if thread.threadStopped then some false
        else if thread.endpoint.hasEstablishedTimeSync then some true
        else thread.waitLoop endTime rest
      else some false

/-- `WaitForSync`, which reads the clock first if it has to wait. -/
def waitForSync (thread : TimeSyncThread) (timeout : Int64) (clock : List Int64) : Option Bool :=
  if thread.endpoint.hasEstablishedTimeSync then some true
  else match clock with
    | [] => none
    | now :: rest => thread.waitLoop (now + timeout) rest

def getRobotClockSkew (thread : TimeSyncThread) (timeSyncTimeout : Int64) (clock : List Int64) :
    Option (PointerResult Duration) :=
  (thread.waitForSync timeSyncTimeout clock).map fun synced =>
    if !synced then
      .failure ⟨unableToEstablishTimeSync,
        "GetRobotClockSkew: Timed out waiting for time synchronization."⟩
    else .success thread.endpoint.previousResult.response.state.bestEstimate.clockSkew

def getRobotTimeConverter (thread : TimeSyncThread) (timeout : Int64) (clock : List Int64) :
    Option (PointerResult RobotTimeConverter) :=
  (thread.waitForSync timeout clock).map fun synced =>
    if !synced then
      .failure ⟨unableToEstablishTimeSync, "GetRobotTimeConverter: Failed to establish timesync."⟩
    else .success thread.endpoint.getRobotTimeConverter

/-- `RobotTimestampFromLocal`, which waits for no time at all. -/
def robotTimestampFromLocal (thread : TimeSyncThread) (localTime : Int64) (clock : List Int64) :
    Option (PointerResult Timestamp) :=
  (thread.getRobotTimeConverter 0 clock).map fun getRobotTimeConverterResult =>
    match getRobotTimeConverterResult with
    | ⟨status, some converter⟩ =>
        if !status.ok then
          .failure (Status.unset.chain "RobotTimestampFromLocal: Failed to get robot time converter.")
        else .success (converter.robotTimestampFromLocal localTime)
    | ⟨_, none⟩ =>
        .failure (Status.unset.chain "RobotTimestampFromLocal: Failed to get robot time converter.")

/-- In a state that does not change, waiting does not change what is found. -/
theorem waitForSync_eq {thread : TimeSyncThread} {timeout : Int64} {clock : List Int64}
    {synced : Bool} (h : thread.waitForSync timeout clock = some synced) :
    synced = thread.endpoint.hasEstablishedTimeSync := by
  have loop : ∀ (endTime : Int64) (clock : List Int64),
      thread.endpoint.hasEstablishedTimeSync = false →
      thread.waitLoop endTime clock = some synced → synced = false := by
    intro endTime clock unsynced
    induction clock with
    | nil => intro h; simp [waitLoop] at h
    | cons now rest ih =>
        intro h
        simp only [waitLoop, unsynced] at h
        split at h
        · split at h
          · simpa using h.symm
          · exact ih h
        · simpa using h.symm
  cases synced' : thread.endpoint.hasEstablishedTimeSync with
  | true => simpa [waitForSync, synced'] using h.symm
  | false =>
      cases clock with
      | nil => simp [waitForSync, synced'] at h
      | cons now rest =>
          simp only [waitForSync, synced'] at h
          exact loop _ rest synced' h

/-- The wait ends when the clock reaches its end. -/
theorem waitForSync_returns (thread : TimeSyncThread) {timeout now late : Int64}
    {clock : List Int64} (reached : late ∈ clock) (h : ¬late < now + timeout) :
    (thread.waitForSync timeout (now :: clock)).isSome := by
  have loop : (thread.waitLoop (now + timeout) clock).isSome := by
    induction clock with
    | nil => simp at reached
    | cons first rest ih =>
        rw [waitLoop]
        split
        · rename_i early
          have later : late ∈ rest := by
            rcases List.mem_cons.mp reached with rfl | later
            · exact absurd early h
            · exact later
          split
          · rfl
          · split
            · rfl
            · exact ih later
        · rfl
  rw [waitForSync]
  split
  · rfl
  · exact loop

end TimeSyncThread

/-- A result is the success with a value where that is available, and an error where not. -/
def Gives {α : Type} (result : PointerResult α) (available : Prop) (value : α) : Prop :=
  (available → result = .success value) ∧ (¬available → result.status.ok = false)

/-- The accessors of an endpoint describe one response. -/
structure Describes (endpoint : TimeSyncEndpoint) (response : TimeSyncUpdateResponse) : Prop where
  roundTripTime :
    Gives endpoint.getRoundTripTime True response.state.bestEstimate.roundTripTime
  clockSkew : Gives endpoint.getClockSkew (response.state.status = TimeSyncState.statusOk)
    response.state.bestEstimate.clockSkew
  clockIdentifier :
    Gives endpoint.getClockIdentifier (response.clockIdentifier ≠ "") response.clockIdentifier
  converter : endpoint.getRobotTimeConverter =
    ⟨durationToNsec response.state.bestEstimate.clockSkew⟩
  established : endpoint.hasEstablishedTimeSync = true ↔
    response.state.status = TimeSyncState.statusOk

/-- The three answers are all successes with values of the response, or all errors with
one code. -/
def SameAnswer (response : Option TimeSyncUpdateResponse) (localTime : Int64)
    (skew : PointerResult Duration) (converter : PointerResult RobotTimeConverter)
    (timestamp : PointerResult Timestamp) : Prop :=
  (∃ found, response = some found ∧
    skew = .success found.state.bestEstimate.clockSkew ∧
    converter = .success ⟨durationToNsec found.state.bestEstimate.clockSkew⟩ ∧
    timestamp =
      .success (setTimestamp (localTime + durationToNsec found.state.bestEstimate.clockSkew))) ∨
  skew.status.ok = false ∧ converter.status.ok = false ∧ timestamp.status.ok = false ∧
    skew.status.code = converter.status.code ∧ converter.status.code = timestamp.status.code

/-- The functions of a thread agree, whatever each of them waits for. -/
def ThreadAgrees (thread : TimeSyncThread) (response : Option TimeSyncUpdateResponse) : Prop :=
  ∀ (localTime skewTimeout converterTimeout : Int64)
    (skewClock converterClock timestampClock : List Int64) skew converter timestamp,
    thread.getRobotClockSkew skewTimeout skewClock = some skew →
    thread.getRobotTimeConverter converterTimeout converterClock = some converter →
    thread.robotTimestampFromLocal localTime timestampClock = some timestamp →
    SameAnswer response localTime skew converter timestamp

/-- The response of the last successful update. -/
def lastResponse (outcomes : Outcomes) : Option TimeSyncUpdateResponse :=
  (lastSuccessful outcomes).map fun outcome => outcome.1.response

/-- All that the accessors promise after a sequence of updates. -/
structure Agreement (outcomes : Outcomes) : Prop where
  describes : ∀ response, lastResponse outcomes = some response →
    Describes (estimates outcomes) response
  failed : ∀ updateResult rxTime, updateResult.status.ok = false →
    ((estimates outcomes).getNewEstimate updateResult rxTime).2 = estimates outcomes
  thread : ∀ stopped, ThreadAgrees ⟨estimates outcomes, stopped⟩ (lastResponse outcomes)

section Accessors

variable {outcomes : Outcomes} {response : TimeSyncUpdateResponse}

/-- The parts of the last success are the state of the endpoint. -/
theorem estimates_of_lastResponse (h : lastResponse outcomes = some response) :
    ∃ status rxTime, status.ok = true ∧
      estimates outcomes = updateState ⟨status, response⟩ rxTime := by
  obtain ⟨⟨⟨status, found⟩, rxTime⟩, last, rfl⟩ := Option.map_eq_some_iff.mp h
  refine ⟨status, rxTime, lastSuccessful_ok last, ?_⟩
  rw [estimates_eq, last]

theorem estimates_of_no_response (h : lastResponse outcomes = none) : estimates outcomes = {} := by
  rw [estimates_eq, Option.map_eq_none_iff.mp h]

/-- Without a success there is no established time sync; with one its status decides. -/
theorem established_iff :
    (estimates outcomes).hasEstablishedTimeSync = true ↔
      ∃ response, lastResponse outcomes = some response ∧
        response.state.status = TimeSyncState.statusOk := by
  cases h : lastResponse outcomes with
  | none =>
      rw [estimates_of_no_response h]
      simp [hasEstablishedTimeSync, Status.ok, previousTimeSyncUnavailableYet,
        robotTimeSyncErrorCategory]
  | some response =>
      obtain ⟨status, rxTime, ok, state⟩ := estimates_of_lastResponse h
      simp [state, hasEstablishedTimeSync, updateState, ok]

/-- The accessors describe the last success exactly when its round trip time is zero. -/
theorem describes_iff (h : lastResponse outcomes = some response) :
    Describes (estimates outcomes) response ↔ response.state.bestEstimate.roundTripTime = {} := by
  obtain ⟨status, rxTime, ok, state⟩ := estimates_of_lastResponse h
  have roundTrip : (estimates outcomes).getRoundTripTime = .success {} := by
    simp [state, getRoundTripTime, updateState, ok]
  constructor
  · intro described
    have same := described.roundTripTime.1 trivial
    rw [roundTrip] at same
    simpa [PointerResult.success] using same.symm
  · intro zero
    constructor
    · rw [zero, roundTrip]
      exact ⟨fun _ => rfl, fun h => absurd trivial h⟩
    · constructor
      · intro statusOk
        simp [state, getClockSkew, updateState, ok, statusOk]
      · intro notOk
        have refused : (estimates outcomes).getClockSkew.status.code =
            ⟨timeSyncStateCategory, response.state.status⟩ := by
          simp [state, getClockSkew, updateState, ok, notOk, PointerResult.failure]
        rw [Status.ok, refused]
        simpa [timeSyncStateCategory, TimeSyncState.statusOk] using notOk
    · constructor
      · intro identified
        simp [state, getClockIdentifier, updateState, identified]
      · intro unset
        rw [not_not] at unset
        simp [state, getClockIdentifier, updateState, unset, PointerResult.failure, Status.ok,
          clockIdentifierUnset, timeSyncHelperErrorCategory]
    · simp [state, getRobotTimeConverter, updateState]
    · simp [state, hasEstablishedTimeSync, updateState, ok]

end Accessors

section Thread

variable {thread : TimeSyncThread} {timeout localTime : Int64} {clock : List Int64}
  {skew : PointerResult Duration} {converter : PointerResult RobotTimeConverter}
  {timestamp : PointerResult Timestamp}

theorem getRobotClockSkew_eq (h : thread.getRobotClockSkew timeout clock = some skew) :
    skew = if thread.endpoint.hasEstablishedTimeSync
      then .success thread.endpoint.previousResult.response.state.bestEstimate.clockSkew
      else .failure ⟨unableToEstablishTimeSync,
        "GetRobotClockSkew: Timed out waiting for time synchronization."⟩ := by
  obtain ⟨synced, waited, rfl⟩ := Option.map_eq_some_iff.mp h
  rw [TimeSyncThread.waitForSync_eq waited]
  cases thread.endpoint.hasEstablishedTimeSync <;> rfl

theorem getRobotTimeConverter_eq
    (h : thread.getRobotTimeConverter timeout clock = some converter) :
    converter = if thread.endpoint.hasEstablishedTimeSync
      then .success thread.endpoint.getRobotTimeConverter
      else .failure ⟨unableToEstablishTimeSync,
        "GetRobotTimeConverter: Failed to establish timesync."⟩ := by
  obtain ⟨synced, waited, rfl⟩ := Option.map_eq_some_iff.mp h
  rw [TimeSyncThread.waitForSync_eq waited]
  cases thread.endpoint.hasEstablishedTimeSync <;> rfl

theorem robotTimestampFromLocal_eq
    (h : thread.robotTimestampFromLocal localTime clock = some timestamp) :
    timestamp = if thread.endpoint.hasEstablishedTimeSync
      then .success (thread.endpoint.robotTimestampFromLocal localTime)
      else .failure
        (Status.unset.chain "RobotTimestampFromLocal: Failed to get robot time converter.") := by
  obtain ⟨converter, given, rfl⟩ := Option.map_eq_some_iff.mp h
  rw [getRobotTimeConverter_eq given]
  cases thread.endpoint.hasEstablishedTimeSync <;> rfl

/-- A call that does not wait returns as soon as it reads the clock twice. -/
theorem returns_at_once (thread : TimeSyncThread) (localTime : Int64) :
    (∃ skew, thread.getRobotClockSkew 0 [0, 0] = some skew) ∧
      (∃ converter, thread.getRobotTimeConverter 0 [0, 0] = some converter) ∧
      ∃ timestamp, thread.robotTimestampFromLocal localTime [0, 0] = some timestamp := by
  have returned : (thread.waitForSync 0 [0, 0]).isSome :=
    thread.waitForSync_returns (List.mem_singleton_self 0) (by decide)
  obtain ⟨synced, waited⟩ := Option.isSome_iff_exists.mp returned
  refine ⟨?_, ?_, ?_⟩
  · simp [TimeSyncThread.getRobotClockSkew, waited]
  · simp [TimeSyncThread.getRobotTimeConverter, waited]
  · simp [TimeSyncThread.robotTimestampFromLocal, TimeSyncThread.getRobotTimeConverter, waited]

/-- The functions of a thread agree exactly when time sync is established. -/
theorem threadAgrees_iff {outcomes : Outcomes} {stopped : Bool} :
    ThreadAgrees ⟨estimates outcomes, stopped⟩ (lastResponse outcomes) ↔
      (estimates outcomes).hasEstablishedTimeSync = true := by
  constructor
  · intro agrees
    by_contra unsynced
    rw [Bool.not_eq_true] at unsynced
    obtain ⟨⟨skew, hs⟩, ⟨converter, hc⟩, timestamp, ht⟩ :=
      returns_at_once ⟨estimates outcomes, stopped⟩ 0
    have answer := agrees 0 0 0 _ _ _ skew converter timestamp hs hc ht
    rw [getRobotClockSkew_eq hs, getRobotTimeConverter_eq hc, robotTimestampFromLocal_eq ht,
      unsynced] at answer
    rcases answer with ⟨_, _, skewed, _⟩ | ⟨_, _, _, _, codes⟩
    · simp [PointerResult.success, PointerResult.failure] at skewed
    · have differ : unableToEstablishTimeSync ≠ Status.unset.code := by decide
      exact differ codes
  · intro synced localTime _ _ _ _ _ skew converter timestamp hs hc ht
    obtain ⟨response, last, _⟩ := established_iff.mp synced
    obtain ⟨status, rxTime, ok, state⟩ := estimates_of_lastResponse last
    rw [getRobotClockSkew_eq hs, getRobotTimeConverter_eq hc, robotTimestampFromLocal_eq ht,
      synced, state]
    exact .inl ⟨response, last, rfl, rfl, rfl⟩

end Thread

/-- What the accessors promise holds exactly when the last successful response has
`STATUS_OK` and an unpopulated round trip time. -/
theorem agreement_iff (outcomes : Outcomes) :
    Agreement outcomes ↔
      ∃ response, lastResponse outcomes = some response ∧
        response.state.status = TimeSyncState.statusOk ∧
        response.state.bestEstimate.roundTripTime = {} := by
  constructor
  · intro agreement
    obtain ⟨response, last, statusOk⟩ :=
      established_iff.mp (threadAgrees_iff.mp (agreement.thread true))
    exact ⟨response, last, statusOk, (describes_iff last).mp (agreement.describes response last)⟩
  · rintro ⟨response, last, statusOk, zero⟩
    constructor
    · intro found same
      obtain rfl : response = found := Option.some.inj (last.symm.trans same)
      exact (describes_iff last).mpr zero
    · intro updateResult rxTime failed
      exact getNewEstimate_failed _ failed rxTime
    · intro stopped
      exact threadAgrees_iff.mpr (established_iff.mpr ⟨response, last, statusOk⟩)

/-- One update that established time sync with a round trip of 20 milliseconds. -/
def establishedOnce : Outcomes :=
  [(⟨⟨SDKErrorCode.success.code, ""⟩,
    { state := { bestEstimate := { roundTripTime := { nanos := 20000000 } }, status := 1 }
      clockIdentifier := "clock" }⟩, {})]

/-- The round trip time that is reported for it is zero. -/
theorem establishedOnce_not_agreement : ¬Agreement establishedOnce := by
  intro agreement
  have zero := (describes_iff rfl).mp (agreement.describes _ rfl)
  exact absurd zero (by decide)

end SpotSdk.Client.TimeSync
