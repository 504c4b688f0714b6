import SpotSdk.RobotCommand.RobotCommands

/-!
# The end times of a robot command

Some requests hold an end time, which is required. `mapEndTimes` updates the end times of
a command and nothing else: two updates of a command are equal exactly if they agree on
the end times that it holds. `MutateEndTime` is compared with such an update.
-/

namespace SpotSdk.Client.TimeSync

/-- A request with its end time changed. -/
def TimedRequest.mapEndTime {β : Type} (change : Option Timestamp → Option Timestamp)
    (request : TimedRequest β) : TimedRequest β :=
  { request with endTime := change request.endTime }

theorem TimedRequest.mapEndTime_eq_iff {β : Type} (f g : Option Timestamp → Option Timestamp)
    (request : TimedRequest β) :
    request.mapEndTime f = request.mapEndTime g ↔ f request.endTime = g request.endTime := by
  constructor
  · intro same
    exact congrArg TimedRequest.endTime same
  · intro same
    rw [mapEndTime, mapEndTime, same]

end SpotSdk.Client.TimeSync

namespace SpotSdk.Api

open SpotSdk.Client.TimeSync (Timestamp TimedRequest)

/-- The messages that have an end time. -/
inductive TimedMessage
  | se2Trajectory
  | se2Velocity
  | stance
  | armVelocity
  | constrainedManipulation
  deriving DecidableEq, Repr

/-- A change of end times, by the message that holds them. -/
abbrev EndTimeUpdate := TimedMessage → Option Timestamp → Option Timestamp

/-- The end times that a command holds, each with its message. -/
abbrev EndTimes := List (TimedMessage × Option Timestamp)

variable {β : Type} {f g : EndTimeUpdate}

/-- Two updates agree on some end times. -/
def AgreeOn (f g : EndTimeUpdate) (endTimes : EndTimes) : Prop :=
  ∀ message endTime, (message, endTime) ∈ endTimes → f message endTime = g message endTime

@[simp] theorem agreeOn_nil : AgreeOn f g [] := by
  intro message endTime member
  cases member

@[simp] theorem agreeOn_singleton {message : TimedMessage} {endTime : Option Timestamp} :
    AgreeOn f g [(message, endTime)] ↔ f message endTime = g message endTime := by
  constructor
  · intro agree
    exact agree message endTime (List.mem_singleton_self _)
  · intro same _ _ member
    obtain ⟨rfl, rfl⟩ := Prod.mk.inj (List.mem_singleton.mp member)
    exact same

theorem agreeOn_append {a b : EndTimes} :
    AgreeOn f g (a ++ b) ↔ AgreeOn f g a ∧ AgreeOn f g b := by
  simp only [AgreeOn, List.mem_append, or_imp, forall_and]

/-! ## Updates of a command -/

namespace FullBodyCommandRequest

def mapEndTimes (f : EndTimeUpdate) (request : FullBodyCommandRequest β) :
    FullBodyCommandRequest β :=
  match request.command with
  | some (.constrainedManipulationRequest constrained) => { request with
      command := some (.constrainedManipulationRequest
        (constrained.mapEndTime (f .constrainedManipulation))) }
  | _ => request

def endTimes (request : FullBodyCommandRequest β) : EndTimes :=
  match request.command with
  | some (.constrainedManipulationRequest constrained) =>
      [(.constrainedManipulation, constrained.endTime)]
  | _ => []

theorem mapEndTimes_eq_iff (request : FullBodyCommandRequest β) :
    request.mapEndTimes f = request.mapEndTimes g ↔ AgreeOn f g request.endTimes := by
  obtain ⟨command, params⟩ := request
  cases command with
  | none => simp [mapEndTimes, endTimes]
  | some command =>
      cases command <;> simp [mapEndTimes, endTimes, TimedRequest.mapEndTime_eq_iff]

end FullBodyCommandRequest

namespace ArmCommandRequest

def mapEndTimes (f : EndTimeUpdate) (request : ArmCommandRequest β) : ArmCommandRequest β :=
  match request.command with
  | some (.armVelocityCommand velocity) => { request with
      command := some (.armVelocityCommand (velocity.mapEndTime (f .armVelocity))) }
  | _ => request

def endTimes (request : ArmCommandRequest β) : EndTimes :=
  match request.command with
  | some (.armVelocityCommand velocity) => [(.armVelocity, velocity.endTime)]
  | _ => []

theorem mapEndTimes_eq_iff (request : ArmCommandRequest β) :
    request.mapEndTimes f = request.mapEndTimes g ↔ AgreeOn f g request.endTimes := by
  obtain ⟨command, params⟩ := request
  cases command with
  | none => simp [mapEndTimes, endTimes]
  | some command =>
      cases command <;> simp [mapEndTimes, endTimes, TimedRequest.mapEndTime_eq_iff]

end ArmCommandRequest

namespace MobilityCommandRequest

def mapEndTimes (f : EndTimeUpdate) (request : MobilityCommandRequest β) :
    MobilityCommandRequest β :=
  match request.command with
  | some (.se2TrajectoryRequest trajectory) => { request with
      command := some (.se2TrajectoryRequest (trajectory.mapEndTime (f .se2Trajectory))) }
  | some (.se2VelocityRequest velocity) => { request with
      command := some (.se2VelocityRequest (velocity.mapEndTime (f .se2Velocity))) }
  | some (.stanceRequest stance) => { request with
      command := some (.stanceRequest (stance.mapEndTime (f .stance))) }
  | _ => request

def endTimes (request : MobilityCommandRequest β) : EndTimes :=
  match request.command with
  | some (.se2TrajectoryRequest trajectory) => [(.se2Trajectory, trajectory.endTime)]
  | some (.se2VelocityRequest velocity) => [(.se2Velocity, velocity.endTime)]
  | some (.stanceRequest stance) => [(.stance, stance.endTime)]
  | _ => []

theorem mapEndTimes_eq_iff (request : MobilityCommandRequest β) :
    request.mapEndTimes f = request.mapEndTimes g ↔ AgreeOn f g request.endTimes := by
  obtain ⟨command, params⟩ := request
  cases command with
  | none => simp [mapEndTimes, endTimes]
  | some command =>
      cases command <;> simp [mapEndTimes, endTimes, TimedRequest.mapEndTime_eq_iff]

/-- `MutateEndTime` of a mobility command. -/
def mutateEndTime (request : MobilityCommandRequest β) (endTime : Timestamp) :
    MobilityCommandRequest β :=
  match request.command with
  -- Velocity request has an endtime.
  | some (.se2VelocityRequest velocity) => { request with
      command := some (.se2VelocityRequest { velocity with endTime := some endTime }) }
  -- Trajectory request has an endtime.
  | some (.se2TrajectoryRequest trajectory) => { request with
      command := some (.se2TrajectoryRequest { trajectory with endTime := some endTime }) }
  | _ => request

end MobilityCommandRequest

namespace SynchronizedCommandRequest

def mapEndTimes (f : EndTimeUpdate) (request : SynchronizedCommandRequest β) :
    SynchronizedCommandRequest β :=
  { request with
    armCommand := request.armCommand.map (ArmCommandRequest.mapEndTimes f)
    mobilityCommand := request.mobilityCommand.map (MobilityCommandRequest.mapEndTimes f) }

def endTimes (request : SynchronizedCommandRequest β) : EndTimes :=
  request.armCommand.toList.flatMap ArmCommandRequest.endTimes ++
    request.mobilityCommand.toList.flatMap MobilityCommandRequest.endTimes

theorem mapEndTimes_eq_iff (request : SynchronizedCommandRequest β) :
    request.mapEndTimes f = request.mapEndTimes g ↔ AgreeOn f g request.endTimes := by
  obtain ⟨arm, mobility, gripper⟩ := request
  have armPart : arm.map (ArmCommandRequest.mapEndTimes f) =
      arm.map (ArmCommandRequest.mapEndTimes g) ↔
      AgreeOn f g (arm.toList.flatMap ArmCommandRequest.endTimes) := by
    cases arm with
    | none => simp
    | some arm => simp [ArmCommandRequest.mapEndTimes_eq_iff]
  have mobilityPart : mobility.map (MobilityCommandRequest.mapEndTimes f) =
      mobility.map (MobilityCommandRequest.mapEndTimes g) ↔
      AgreeOn f g (mobility.toList.flatMap MobilityCommandRequest.endTimes) := by
    cases mobility with
    | none => simp
    | some mobility => simp [MobilityCommandRequest.mapEndTimes_eq_iff]
  rw [endTimes, agreeOn_append, ← armPart, ← mobilityPart]
  simp [mapEndTimes]

end SynchronizedCommandRequest

namespace RobotCommand

/-- A robot command with its end times changed. -/
def mapEndTimes (f : EndTimeUpdate) : RobotCommand β → RobotCommand β
  | .commandNotSet => .commandNotSet
  | .fullBodyCommand request => .fullBodyCommand (request.mapEndTimes f)
  | .synchronizedCommand request => .synchronizedCommand (request.mapEndTimes f)

/-- The end times of a robot command. -/
def endTimes : RobotCommand β → EndTimes
  | .commandNotSet => []
  | .fullBodyCommand request => request.endTimes
  | .synchronizedCommand request => request.endTimes

/-- Two updates of a command are equal exactly if they agree on its end times. -/
theorem mapEndTimes_eq_iff (command : RobotCommand β) :
    command.mapEndTimes f = command.mapEndTimes g ↔ AgreeOn f g command.endTimes := by
  cases command with
  | commandNotSet => simp [mapEndTimes, endTimes]
  | fullBodyCommand request =>
      simp [mapEndTimes, endTimes, FullBodyCommandRequest.mapEndTimes_eq_iff]
  | synchronizedCommand request =>
      simp [mapEndTimes, endTimes, SynchronizedCommandRequest.mapEndTimes_eq_iff]

/-- `RobotCommandClient::MutateEndTime`. -/
def mutateEndTime (command : RobotCommand β) (endTime : Timestamp) : RobotCommand β :=
  match command.synchronized.mobilityCommand with
  | some mobility => command.mutateSynchronized fun request =>
      { request with mobilityCommand := some (mobility.mutateEndTime endTime) }
  | none => command

end RobotCommand

/-! ## What is set -/

/-- Set the end times of some messages. -/
def setEndTimes (messages : List TimedMessage) (endTime : Timestamp) : EndTimeUpdate :=
  fun message before => if message ∈ messages then some endTime else before

/-- The messages whose end time `MutateEndTime` sets. -/
def se2Messages : List TimedMessage := [.se2Trajectory, .se2Velocity]

theorem MobilityCommandRequest.mutateEndTime_eq (request : MobilityCommandRequest β)
    (endTime : Timestamp) :
    request.mutateEndTime endTime = request.mapEndTimes (setEndTimes se2Messages endTime) := by
  obtain ⟨command, params⟩ := request
  cases command with
  | none => rfl
  | some command => cases command <;> rfl

theorem ArmCommandRequest.mapEndTimes_se2 (request : ArmCommandRequest β) (endTime : Timestamp) :
    request.mapEndTimes (setEndTimes se2Messages endTime) = request := by
  obtain ⟨command, params⟩ := request
  cases command with
  | none => rfl
  | some command => cases command <;> rfl

theorem FullBodyCommandRequest.mapEndTimes_se2 (request : FullBodyCommandRequest β)
    (endTime : Timestamp) : request.mapEndTimes (setEndTimes se2Messages endTime) = request := by
  obtain ⟨command, params⟩ := request
  cases command with
  | none => rfl
  | some command => cases command <;> rfl

namespace RobotCommand

/-- `MutateEndTime` sets the end times of the SE2 requests, and changes nothing else. -/
theorem mutateEndTime_eq (command : RobotCommand β) (endTime : Timestamp) :
    command.mutateEndTime endTime = command.mapEndTimes (setEndTimes se2Messages endTime) := by
  cases command with
  | commandNotSet => rfl
  | fullBodyCommand request =>
      rw [mapEndTimes, FullBodyCommandRequest.mapEndTimes_se2]
      rfl
  | synchronizedCommand request =>
      obtain ⟨arm, mobility, gripper⟩ := request
      have unchanged : arm.map (ArmCommandRequest.mapEndTimes (setEndTimes se2Messages endTime)) =
          arm := by
        cases arm with
        | none => rfl
        | some arm => exact congrArg some (arm.mapEndTimes_se2 endTime)
      rw [mapEndTimes, SynchronizedCommandRequest.mapEndTimes, unchanged]
      cases mobility with
      | none => rfl
      | some mobility =>
          rw [Option.map_some, ← mobility.mutateEndTime_eq]
          rfl

/-- The end times of these messages are set, and nothing else is changed. -/
def SetsEndTimes (messages : List TimedMessage) (command : RobotCommand β)
    (endTime : Timestamp) : Prop :=
  command.mutateEndTime endTime = command.mapEndTimes (setEndTimes messages endTime)

/-- More messages than those of the SE2 requests are covered exactly if the end times of
the others already are as they should be. -/
theorem setsEndTimes_iff {messages : List TimedMessage}
    (includes : ∀ message ∈ se2Messages, message ∈ messages) (command : RobotCommand β)
    (endTime : Timestamp) :
    command.SetsEndTimes messages endTime ↔
      ∀ message before, (message, before) ∈ command.endTimes →
        message ∈ messages → message ∉ se2Messages → before = some endTime := by
  rw [SetsEndTimes, mutateEndTime_eq, mapEndTimes_eq_iff]
  constructor
  · intro agree message before held required other
    have same := agree message before held
    rw [setEndTimes, setEndTimes, if_neg other, if_pos required] at same
    exact same
  · intro already message before held
    rw [setEndTimes, setEndTimes]
    by_cases se2 : message ∈ se2Messages
    · rw [if_pos se2, if_pos (includes message se2)]
    · rw [if_neg se2]
      by_cases required : message ∈ messages
      · rw [if_pos required]
        exact already message before held required se2
      · rw [if_neg required]

/-- The mobility trajectory, velocity and stance requests and the arm velocity request. -/
def timedSubRequests : List TimedMessage := [.se2Trajectory, .se2Velocity, .stance, .armVelocity]

/-- Every message with a required end time. -/
def timedMessages : List TimedMessage :=
  [.se2Trajectory, .se2Velocity, .stance, .armVelocity, .constrainedManipulation]

/-- The required end times of a command are set exactly if those of a stance request and
an arm velocity request (and, counted with them, of a constrained manipulation request)
are the given one before. -/
theorem setsEndTimes_required_iff (command : RobotCommand β) (endTime : Timestamp) :
    (command.SetsEndTimes timedSubRequests endTime ↔
      ∀ message before, (message, before) ∈ command.endTimes →
        message = .stance ∨ message = .armVelocity → before = some endTime) ∧
    (command.SetsEndTimes timedMessages endTime ↔
      ∀ message before, (message, before) ∈ command.endTimes →
        message = .stance ∨ message = .armVelocity ∨ message = .constrainedManipulation →
        before = some endTime) := by
  constructor
  · rw [setsEndTimes_iff (by decide)]
    apply forall_congr'
    intro message
    cases message <;> simp [timedSubRequests, se2Messages]
  · rw [setsEndTimes_iff (by decide)]
    apply forall_congr'
    intro message
    cases message <;> simp [timedMessages, se2Messages]

/-- A stance request without an end time. -/
def stanceCommand : RobotCommand Unit :=
  .synchronizedCommand { mobilityCommand := some { command := some (.stanceRequest ⟨none, ()⟩) } }

/-- The stance request keeps being without one. -/
theorem stanceCommand_not_setsEndTimes :
    stanceCommand.mutateEndTime ⟨10, 0⟩ = stanceCommand ∧
      ¬stanceCommand.SetsEndTimes timedSubRequests ⟨10, 0⟩ := by
  refine ⟨rfl, ?_⟩
  intro sets
  have already := (setsEndTimes_iff (by decide) stanceCommand ⟨10, 0⟩).mp sets .stance none
    (List.mem_singleton_self _) (by decide) (by decide)
  cases already

end RobotCommand

end SpotSdk.Api
