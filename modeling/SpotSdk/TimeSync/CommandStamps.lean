import SpotSdk.Foundations.LabelledRuns
import SpotSdk.TimeSync.TimeSyncEndpoint

/-!
# Commands stamped with robot time

`RobotCommandAsync` and `DockingCommandBuilder` read the clock skew and the clock
identifier of a time sync endpoint by two accessors, each with a lock of its own, while a
background thread replaces the estimate. The parts of a command that have no end time
are left open.
-/

namespace SpotSdk.Client.TimeSync

open Foundations Common TimeSyncEndpoint

section Commands

variable {β : Type}

/-- A request with an end time, and what else it holds. -/
structure TimedRequest (β : Type) where
  endTime : Option Timestamp := none
  rest : β

inductive MobilityCommandRequest (β : Type)
  | commandNotSet
  | se2TrajectoryRequest (request : TimedRequest β)
  | se2VelocityRequest (request : TimedRequest β)
  | sitRequest (request : β)
  | standRequest (request : β)
  | stanceRequest (request : TimedRequest β)
  | stopRequest (request : β)
  | followArmRequest (request : β)

/-- An arm command: only the velocity command has an end time. -/
inductive ArmCommandRequest (β : Type)
  | armVelocityCommand (request : TimedRequest β)
  | untimed (request : β)

structure SynchronizedCommandRequest (β : Type) where
  armCommand : Option (ArmCommandRequest β) := none
  mobilityCommand : Option (MobilityCommandRequest β) := none
  gripperCommand : Option β := none

/-- A full body command: only constrained manipulation has an end time. -/
inductive FullBodyCommandRequest (β : Type)
  | constrainedManipulationRequest (request : TimedRequest β)
  | untimed (request : β)

inductive RobotCommand (β : Type)
  | commandNotSet
  | fullBodyCommand (request : FullBodyCommandRequest β)
  | synchronizedCommand (request : SynchronizedCommandRequest β)

/-- `MutateEndTime` of a mobility command. -/
def MobilityCommandRequest.mutateEndTime (endTime : Timestamp) :
    MobilityCommandRequest β → MobilityCommandRequest β
  -- Velocity request has an endtime.
  | .se2VelocityRequest request => .se2VelocityRequest { request with endTime := some endTime }
  -- Trajectory request has an endtime.
  | .se2TrajectoryRequest request => .se2TrajectoryRequest { request with endTime := some endTime }
  | command => command

/-- `MutateEndTime` of a robot command. -/
def RobotCommand.mutateEndTime (endTime : Timestamp) : RobotCommand β → RobotCommand β
  | .synchronizedCommand request => .synchronizedCommand { request with
      mobilityCommand := request.mobilityCommand.map (MobilityCommandRequest.mutateEndTime endTime) }
  | command => command

/-- The end times of the SE2 requests of a command. -/
def RobotCommand.se2EndTimes : RobotCommand β → List (Option Timestamp)
  | .synchronizedCommand { mobilityCommand := some (.se2TrajectoryRequest request), .. } =>
      [request.endTime]
  | .synchronizedCommand { mobilityCommand := some (.se2VelocityRequest request), .. } =>
      [request.endTime]
  | _ => []

/-- The end times of the other requests of a command. -/
def RobotCommand.otherEndTimes : RobotCommand β → List (Option Timestamp)
  | .commandNotSet => []
  | .fullBodyCommand (.constrainedManipulationRequest request) => [request.endTime]
  | .fullBodyCommand (.untimed _) => []
  | .synchronizedCommand request =>
      (match request.armCommand with
        | some (.armVelocityCommand request) => [request.endTime]
        | _ => []) ++
      (match request.mobilityCommand with
        | some (.stanceRequest request) => [request.endTime]
        | _ => [])

/-- Every end time of a command. -/
def RobotCommand.endTimes (command : RobotCommand β) : List (Option Timestamp) :=
  command.se2EndTimes ++ command.otherEndTimes

/-- The end times of the SE2 requests are set, and no other. -/
theorem RobotCommand.mutateEndTime_endTimes (command : RobotCommand β) (endTime : Timestamp) :
    (command.mutateEndTime endTime).endTimes =
      command.se2EndTimes.map (fun _ => some endTime) ++ command.otherEndTimes := by
  cases command with
  | commandNotSet => rfl
  | fullBodyCommand request => rfl
  | synchronizedCommand request =>
      obtain ⟨arm, mobility, gripper⟩ := request
      cases mobility with
      | none => rfl
      | some mobility => cases mobility <;> rfl

end Commands

/-- How a call ends: with an error, with a request, or by reading an absent value. -/
inductive CallOutcome (ρ : Type)
  | error (status : Status)
  | request (request : ρ)
  | absentDereferenced

/-- A call that reads an endpoint twice. `τ` is what it keeps from the first read, unless
that ends the call. -/
structure StampingCall (τ ρ : Type) where
  noEndpoint : Status
  first : TimeSyncEndpoint → Except (CallOutcome ρ) τ
  second : τ → TimeSyncEndpoint → CallOutcome ρ

structure RobotCommandRequest (β γ : Type) where
  command : RobotCommand β
  lease : Option γ := none
  clockIdentifier : String := ""

/-- `RobotCommandClient::RobotCommandAsync`, up to the call of the base RPC. The time
converter is kept with the request. -/
def robotCommandAsync {β γ : Type} (command : RobotCommand β) (lease : Option γ)
    (endTime : Int64) :
    StampingCall (Option RobotTimeConverter × RobotCommandRequest β γ)
      (RobotCommandRequest β γ) where
  noEndpoint := ⟨SDKErrorCode.genericSDKError.code,
    "Timesync endpoint is unset for the RobotCommand Client."⟩
  first endpoint :=
    let request := { command := command, lease := lease }
    if endTime ≠ 0 then
      let timeConverter := endpoint.getRobotTimeConverter
      let cmdTimestamp := timeConverter.robotTimestampFromLocal endTime
      .ok (some timeConverter,
        { request with command := request.command.mutateEndTime cmdTimestamp })
    else .ok (none, request)
  second := fun (_, request) endpoint =>
    let clockString := endpoint.getClockIdentifier
    if !clockString.status.ok then .error clockString.status
    else match clockString.response with
      | none => .absentDereferenced
      | some clockIdentifier => .request { request with clockIdentifier := clockIdentifier }

structure DockingCommandRequest where
  dockingStationId : Nat := 0
  clockIdentifier : String := ""
  endTime : Option Timestamp := none

/-- `DockingClient::DockingCommandBuilder`, which does not look at the status of the clock
identifier. -/
def dockingCommandBuilder (dockId : Nat) (localEndTime : Int64) :
    StampingCall DockingCommandRequest DockingCommandRequest where
  noEndpoint := ⟨SDKErrorCode.genericSDKError.code,
    "Timesync endpoint is unset for the Docking Client."⟩
  first endpoint :=
    match endpoint.getClockIdentifier.response with
    | none => .error .absentDereferenced
    | some clockIdentifier =>
        .ok { dockingStationId := dockId, clockIdentifier := clockIdentifier }
  second request endpoint :=
    .request { request with endTime := some (endpoint.robotTimestampFromLocal localEndTime) }

section Runs

variable {τ ρ : Type}

/-- Where a call is. When it has returned, `established` tells whether time sync was
established at its last access. -/
inductive CallPoint (τ ρ : Type)
  | start
  | between (kept : τ)
  | returned (outcome : CallOutcome ρ) (established : Bool)

/-- A call with the endpoint it uses, and the outcomes recorded in that endpoint. -/
structure Stamping (τ ρ : Type) where
  endpoint : Option TimeSyncEndpoint
  recorded : Outcomes := []
  point : CallPoint τ ρ := .start

inductive StampStep
  | estimate (updateResult : TimeSyncUpdateResult) (rxTime : Timestamp)
  | call

namespace Stamping

/-- A call with the endpoint it was given, else with that of its client. -/
def start (timeSyncEndpoint member : Option Unit) : Stamping τ ρ :=
  { endpoint := (timeSyncEndpoint.or member).map fun _ => {} }

/-- A step of the background thread that updates the estimate, or of the call. -/
def step (c : StampingCall τ ρ) (s : Stamping τ ρ) : StampStep → Option (Stamping τ ρ)
  | .estimate updateResult rxTime => s.endpoint.map fun endpoint => { s with
      endpoint := some (endpoint.getNewEstimate updateResult rxTime).2
      recorded := if updateResult.status.ok then s.recorded ++ [(updateResult, rxTime)]
        else s.recorded }
  | .call =>
      match s.point, s.endpoint with
      | .start, none => some { s with point := .returned (.error c.noEndpoint) false }
      | .start, some endpoint =>
          match c.first endpoint with
          | .ok kept => some { s with point := .between kept }
          | .error outcome =>
              some { s with point := .returned outcome endpoint.hasEstablishedTimeSync }
      | .between kept, some endpoint =>
          some { s with
            point := .returned (c.second kept endpoint) endpoint.hasEstablishedTimeSync }
      | _, _ => none

end Stamping

/-- A request is stamped by one response: it carries the identifier of the response and
the local end time shifted by its skew. -/
def Stamped (response : TimeSyncUpdateResponse) (localEndTime : Int64) (clockIdentifier : String)
    (endTimes : List (Option Timestamp)) : Prop :=
  response.state.status = TimeSyncState.statusOk ∧ clockIdentifier = response.clockIdentifier ∧
    ∀ endTime ∈ endTimes, endTime =
      some (setTimestamp (localEndTime + durationToNsec response.state.bestEstimate.clockSkew))

/-- What a call promises of its outcome: an error wherever time sync is not established,
and no request that is not stamped by one of the recorded responses. -/
def Promised (stamps : TimeSyncUpdateResponse → ρ → Prop) (recorded : Outcomes)
    (outcome : CallOutcome ρ) (established : Bool) : Prop :=
  match outcome with
  | .error _ => True
  | .request request => established = true ∧
      ∃ recordedOutcome ∈ recorded, recordedOutcome.1.status.ok = true ∧
        stamps recordedOutcome.1.response request
  | .absentDereferenced => False

variable {c : StampingCall τ ρ} {reads : CallPoint τ ρ → TimeSyncEndpoint → Prop}
  {stamps : TimeSyncUpdateResponse → ρ → Prop} {recorded : Outcomes} {endpoint : TimeSyncEndpoint}

/-- The condition on the accesses of a call, in the state they are made in. -/
def Accessing (reads : CallPoint τ ρ → TimeSyncEndpoint → Prop) (s : Stamping τ ρ) :
    StampStep → Prop
  | .call => ∀ endpoint, s.endpoint = some endpoint → reads s.point endpoint
  | .estimate _ _ => True

/-- The endpoint is fresh, or all taken from a recorded success. -/
def Recorded (recorded : Outcomes) (endpoint : TimeSyncEndpoint) : Prop :=
  endpoint = {} ∨ ∃ outcome ∈ recorded, outcome.1.status.ok = true ∧
    endpoint = updateState outcome.1 outcome.2

theorem Promised.mono {outcome : CallOutcome ρ} {established : Bool}
    (h : Promised stamps recorded outcome established) (more : Outcomes) :
    Promised stamps (recorded ++ more) outcome established := by
  cases outcome with
  | error status => trivial
  | request request =>
      obtain ⟨synced, found, member, rest⟩ := h
      exact ⟨synced, found, List.mem_append_left _ member, rest⟩
  | absentDereferenced => exact h

/-- An endpoint that has established time sync holds one recorded `STATUS_OK` response. -/
theorem Recorded.established (h : Recorded recorded endpoint)
    (synced : endpoint.hasEstablishedTimeSync = true) :
    ∃ outcome ∈ recorded, outcome.1.status.ok = true ∧
      outcome.1.response.state.status = TimeSyncState.statusOk ∧
      endpoint = updateState outcome.1 outcome.2 := by
  rcases h with rfl | ⟨outcome, member, ok, rfl⟩
  · exact absurd synced (by decide)
  · refine ⟨outcome, member, ok, ?_, rfl⟩
    exact of_decide_eq_true (Bool.and_eq_true_iff.mp synced).2

/-- What the two accesses of a call do, in states that meet its condition. `Kept` is what
holds between them. -/
structure CallKeeps (c : StampingCall τ ρ) (reads : CallPoint τ ρ → TimeSyncEndpoint → Prop)
    (stamps : TimeSyncUpdateResponse → ρ → Prop) (Kept : τ → Prop) : Prop where
  first_ok : ∀ {endpoint kept}, c.first endpoint = .ok kept → Kept kept
  first_error : ∀ {endpoint outcome}, reads .start endpoint →
    c.first endpoint ≠ .error outcome
  second : ∀ {recorded endpoint kept}, Recorded recorded endpoint → Kept kept →
    reads (.between kept) endpoint →
    Promised stamps recorded (c.second kept endpoint) endpoint.hasEstablishedTimeSync

/-- What holds of the endpoint and the call in every state. -/
structure Stamping.Keeps (stamps : TimeSyncUpdateResponse → ρ → Prop) (Kept : τ → Prop)
    (s : Stamping τ ρ) : Prop where
  endpoint : ∀ endpoint, s.endpoint = some endpoint → Recorded s.recorded endpoint
  between : ∀ kept, s.point = .between kept → Kept kept
  returned : ∀ outcome established, s.point = .returned outcome established →
    Promised stamps s.recorded outcome established

namespace Stamping.Keeps

variable {Kept : τ → Prop} {s t : Stamping τ ρ}

theorem start (timeSyncEndpoint member : Option Unit) :
    (Stamping.start timeSyncEndpoint member : Stamping τ ρ).Keeps stamps Kept := by
  refine ⟨?_, fun _ h => by simp [Stamping.start] at h, fun _ _ h => by simp [Stamping.start] at h⟩
  intro endpoint h
  obtain ⟨_, _, rfl⟩ := Option.map_eq_some_iff.mp h
  exact .inl rfl

/-- The call goes to a point of which the right thing holds. -/
theorem goto (h : s.Keeps stamps Kept) {point : CallPoint τ ρ}
    (between : ∀ kept, point = .between kept → Kept kept)
    (returned : ∀ outcome established, point = .returned outcome established →
      Promised stamps s.recorded outcome established) :
    ({ s with point := point } : Stamping τ ρ).Keeps stamps Kept :=
  ⟨h.endpoint, between, returned⟩

theorem estimate (h : s.Keeps stamps Kept) {updateResult : TimeSyncUpdateResult}
    {rxTime : Timestamp} (next : Stamping.step c s (.estimate updateResult rxTime) = some t) :
    t.Keeps stamps Kept := by
  obtain ⟨endpoint, here, rfl⟩ := Option.map_eq_some_iff.mp next
  cases ok : updateResult.status.ok with
  | false =>
      refine ⟨?_, h.between, ?_⟩
      · intro _ same
        obtain rfl := Option.some.inj same
        rw [getNewEstimate_failed _ ok]
        exact h.endpoint endpoint here
      · exact h.returned
  | true =>
      refine ⟨?_, h.between, ?_⟩
      · intro _ same
        obtain rfl := Option.some.inj same
        rw [getNewEstimate_ok _ ok]
        exact .inr ⟨(updateResult, rxTime),
          List.mem_append_right _ (List.mem_singleton_self _), ok, rfl⟩
      · intro outcome established returned
        exact (h.returned outcome established returned).mono _

theorem call (keeps : CallKeeps c reads stamps Kept) (h : s.Keeps stamps Kept)
    (next : Stamping.step c s .call = some t) (access : Accessing reads s .call) :
    t.Keeps stamps Kept := by
  simp only [Stamping.step] at next
  split at next
  · obtain rfl := Option.some.inj next
    refine h.goto (by simp) ?_
    rintro _ _ same
    obtain ⟨rfl, rfl⟩ := CallPoint.returned.inj same
    trivial
  · rename_i endpoint here set
    have readable : reads .start endpoint := here ▸ access endpoint set
    split at next
    · rename_i kept first
      obtain rfl := Option.some.inj next
      refine h.goto ?_ (by simp)
      rintro _ same
      obtain rfl := CallPoint.between.inj same
      exact keeps.first_ok first
    · rename_i outcome first
      exact absurd first (keeps.first_error readable)
  · rename_i kept endpoint here set
    obtain rfl := Option.some.inj next
    refine h.goto (by simp) ?_
    rintro _ _ same
    obtain ⟨rfl, rfl⟩ := CallPoint.returned.inj same
    exact keeps.second (h.endpoint endpoint set) (h.between kept here) (here ▸ access endpoint set)
  · simp at next

/-- In every run whose accesses meet the condition, the call keeps its promise. -/
theorem run (keeps : CallKeeps c reads stamps Kept) {timeSyncEndpoint member : Option Unit}
    {es : List StampStep}
    (run : Run (Guard (StepOf (Stamping.step c)) (Accessing reads))
      (Stamping.start timeSyncEndpoint member) es s) : s.Keeps stamps Kept := by
  apply run.invariant (Keeps.start timeSyncEndpoint member)
  rintro s e t h ⟨next, access⟩
  cases e with
  | estimate updateResult rxTime => exact h.estimate next
  | call => exact h.call keeps next access

end Stamping.Keeps

end Runs

section Clients

variable {β γ : Type}

/-- The robot command client reads the identifier in a state that has none, or whose
established time sync still has the skew it has read. -/
def RobotCommandReads : CallPoint (Option RobotTimeConverter × RobotCommandRequest β γ)
    (RobotCommandRequest β γ) → TimeSyncEndpoint → Prop
  | .between (timeConverter, _), endpoint => endpoint.clockIdentifier = "" ∨
      endpoint.hasEstablishedTimeSync = true ∧
        ∀ converter, timeConverter = some converter → endpoint.getRobotTimeConverter = converter
  | _, _ => True

/-- The docking client reads the identifier in a state that has one, and the skew in a
state that has established time sync with that identifier. -/
def DockingReads : CallPoint DockingCommandRequest DockingCommandRequest →
    TimeSyncEndpoint → Prop
  | .start, endpoint => endpoint.clockIdentifier ≠ ""
  | .between request, endpoint => endpoint.clockIdentifier = request.clockIdentifier ∧
      endpoint.hasEstablishedTimeSync = true
  | .returned _ _, _ => True

/-- What stamps a robot command, and a docking command. -/
def RobotCommandStamps (endTime : Int64) (response : TimeSyncUpdateResponse)
    (request : RobotCommandRequest β γ) : Prop :=
  Stamped response endTime request.clockIdentifier request.command.endTimes

def DockingStamps (localEndTime : Int64) (response : TimeSyncUpdateResponse)
    (request : DockingCommandRequest) : Prop :=
  Stamped response localEndTime request.clockIdentifier [request.endTime]

/-- The request of a robot command between the two accesses. -/
def RobotCommandKept (endTime : Int64)
    (kept : Option RobotTimeConverter × RobotCommandRequest β γ) : Prop :=
  ∃ converter, kept.1 = some converter ∧ ∀ t ∈ kept.2.command.endTimes,
    t = some (converter.robotTimestampFromLocal endTime)

theorem robotCommandAsync_keeps {command : RobotCommand β} {lease : Option γ} {endTime : Int64}
    (nonzero : endTime ≠ 0) (se2 : command.otherEndTimes = []) :
    CallKeeps (robotCommandAsync command lease endTime) RobotCommandReads
      (RobotCommandStamps endTime) (RobotCommandKept endTime) := by
  constructor
  · intro endpoint kept first
    simp only [robotCommandAsync, if_pos nonzero] at first
    obtain rfl := Except.ok.inj first
    refine ⟨endpoint.getRobotTimeConverter, rfl, ?_⟩
    intro t member
    rw [RobotCommand.mutateEndTime_endTimes, se2, List.append_nil] at member
    obtain ⟨_, _, rfl⟩ := List.mem_map.mp member
    rfl
  · intro endpoint outcome _ first
    simp [robotCommandAsync, if_pos nonzero] at first
  · rintro recorded endpoint ⟨_, request⟩ state ⟨converter, rfl, stamped⟩ reads
    by_cases unset : endpoint.clockIdentifier = ""
    · have failed : endpoint.getClockIdentifier.status.ok = false := by
        rw [getClockIdentifier, if_pos unset]
        decide
      simp only [robotCommandAsync, failed]
      trivial
    · rcases reads with empty | ⟨synced, same⟩
      · exact absurd empty unset
      · obtain ⟨outcome, member, ok, statusOk, rfl⟩ := state.established synced
        obtain rfl := same converter rfl
        have identified : (updateState outcome.1 outcome.2).getClockIdentifier =
            .success outcome.1.response.clockIdentifier := if_neg unset
        simp only [robotCommandAsync, identified]
        exact ⟨synced, outcome, member, ok, statusOk, rfl, stamped⟩

/-- The docking client keeps its promise. -/
theorem dockingCommandBuilder_keeps (dockId : Nat) (localEndTime : Int64) :
    CallKeeps (dockingCommandBuilder dockId localEndTime) DockingReads
      (DockingStamps localEndTime) (fun _ => True) := by
  constructor
  · intros
    trivial
  · intro endpoint outcome identified first
    simp only [DockingReads] at identified
    simp [dockingCommandBuilder, getClockIdentifier, if_neg identified,
      PointerResult.success] at first
  · rintro recorded endpoint request state _ ⟨same, synced⟩
    obtain ⟨outcome, member, ok, statusOk, rfl⟩ := state.established synced
    refine ⟨synced, outcome, member, ok, statusOk, same.symm, ?_⟩
    intro endTime member
    obtain rfl := List.mem_singleton.mp member
    rfl

/-- In every run whose accesses meet the condition, both clients keep their promise. -/
theorem stamped_commands {endTime : Int64} (nonzero : endTime ≠ 0) :
    (∀ (command : RobotCommand β) (lease : Option γ), command.otherEndTimes = [] →
      ∀ timeSyncEndpoint member es s,
        Run (Guard (StepOf (Stamping.step (robotCommandAsync command lease endTime)))
          (Accessing RobotCommandReads)) (Stamping.start timeSyncEndpoint member) es s →
        ∀ outcome established, s.point = .returned outcome established →
          Promised (RobotCommandStamps endTime) s.recorded outcome established) ∧
    (∀ dockId timeSyncEndpoint member es s,
      Run (Guard (StepOf (Stamping.step (dockingCommandBuilder dockId endTime)))
        (Accessing DockingReads)) (Stamping.start timeSyncEndpoint member) es s →
      ∀ outcome established, s.point = .returned outcome established →
        Promised (DockingStamps endTime) s.recorded outcome established) := by
  constructor
  · intro command lease se2 timeSyncEndpoint member es s run
    exact (Stamping.Keeps.run (robotCommandAsync_keeps nonzero se2) run).returned
  · intro dockId timeSyncEndpoint member es s run
    exact (Stamping.Keeps.run (dockingCommandBuilder_keeps dockId endTime) run).returned

/-- A response that assigns the identifier `clock` with a skew of three seconds. -/
def clockResponse (status : Int) : TimeSyncUpdateResult :=
  ⟨⟨SDKErrorCode.success.code, ""⟩,
    { state := { bestEstimate := { clockSkew := { seconds := 3 } }, status := status }
      clockIdentifier := "clock" }⟩

/-- A velocity command, with an end time in the robot's clock if one is given. -/
def velocityRequest (endTime : Option Timestamp) (clockIdentifier : String) :
    RobotCommandRequest Unit Unit where
  command := .synchronizedCommand
    { mobilityCommand := some (.se2VelocityRequest { endTime := endTime, rest := () }) }
  clockIdentifier := clockIdentifier

theorem stamped_commands_velocity :
    Promised (RobotCommandStamps 5) [(clockResponse 1, {})]
      (.request (velocityRequest (some { seconds := 3, nanos := 5 }) "clock")) true := by
  have run : ∃ s, Run (Guard (StepOf (Stamping.step
        (robotCommandAsync (velocityRequest none "").command (none : Option Unit) 5)))
      (Accessing RobotCommandReads)) (Stamping.start (some ()) none)
        [.estimate (clockResponse 1) {}, .call, .call] s ∧
      s.recorded = [(clockResponse 1, {})] ∧ s.point = .returned
        (.request (velocityRequest (some { seconds := 3, nanos := 5 }) "clock")) true := by
    refine ⟨_, .cons ⟨rfl, trivial⟩ (.cons ⟨rfl, fun _ _ => trivial⟩ (.cons ⟨rfl, ?_⟩
      (.nil _))), rfl, rfl⟩
    intro endpoint set
    obtain rfl := Option.some.inj set
    refine .inr ⟨rfl, ?_⟩
    intro converter read
    exact Option.some.inj read
  obtain ⟨s, run, recorded, point⟩ := run
  have promised := (stamped_commands (by decide)).1 _ _ rfl _ _ _ _ run _ _ point
  rwa [recorded] at promised

/-- Without an identifier the docking client reads an absent value, and while more
samples are needed the robot command client sends a request. -/
theorem unsynced_not_promised :
    (∃ s outcome established,
      Run (StepOf (Stamping.step (dockingCommandBuilder 1 5))) (Stamping.start (some ()) none)
        [.call] s ∧ s.point = .returned outcome established ∧
      ¬Promised (DockingStamps 5) s.recorded outcome established) ∧
    ∃ s outcome established,
      Run (StepOf (Stamping.step
          (robotCommandAsync (velocityRequest none "").command (none : Option Unit) 5)))
        (Stamping.start (some ()) none) [.estimate (clockResponse 2) {}, .call, .call] s ∧
      s.point = .returned outcome established ∧
      ¬Promised (RobotCommandStamps 5) s.recorded outcome established := by
  constructor
  · exact ⟨_, _, _, .cons rfl (.nil _), rfl, id⟩
  · refine ⟨_, _, _, .cons rfl (.cons rfl (.cons rfl (.nil _))), rfl, ?_⟩
    rintro ⟨synced, _⟩
    exact absurd synced (by decide)

end Clients

end SpotSdk.Client.TimeSync
