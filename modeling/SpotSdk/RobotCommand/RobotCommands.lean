import SpotSdk.Frames.Poses
import SpotSdk.TimeSync.CommandStamps

/-!
# Robot commands

A robot command is a tree of messages with one alternative chosen at several of its
levels. The sub-commands of a synchronized command are there or not, each for itself.

## Implementation notes

The fields of a message that no function here reads are one value of a type `β`, whose
default is that of a message in which they are unset.
-/

namespace SpotSdk.Api

open SpotSdk.Client.TimeSync (Timestamp Duration TimedRequest)

variable {β : Type}

/-- `FullBodyCommand.Request`, the alternatives. -/
inductive FullBodyCommand (β : Type)
  | stopRequest (request : β)
  | freezeRequest (request : β)
  | selfrightRequest (request : β)
  | safePowerOffRequest (request : β)
  | batteryChangePoseRequest (request : β)
  | payloadEstimationRequest (request : β)
  | constrainedManipulationRequest (request : TimedRequest β)
  | jointRequest (request : β)

structure FullBodyCommandRequest (β : Type) where
  command : Option (FullBodyCommand β) := none
  params : Option β := none

structure SE3TrajectoryPoint (β : Type) where
  pose : Option (SE3Pose ℚ) := none
  timeSinceReference : Option Duration := none
  rest : β

structure SE3Trajectory (β : Type) where
  points : List (SE3TrajectoryPoint β) := []
  rest : β

structure ArmCartesianCommandRequest (β : Type) where
  rootFrameName : String := ""
  poseTrajectoryInTask : Option (SE3Trajectory β) := none
  rest : β

inductive NamedArmPositions
  | unknown
  | carry
  | ready
  | stow
  deriving DecidableEq, Repr

structure NamedArmPositionsCommandRequest where
  position : NamedArmPositions := .unknown

/-- `ArmCommand.Request`, the alternatives. -/
inductive ArmCommand (β : Type)
  | armCartesianCommand (request : ArmCartesianCommandRequest β)
  | armJointMoveCommand (request : β)
  | namedArmPositionCommand (request : NamedArmPositionsCommandRequest)
  | armVelocityCommand (request : TimedRequest β)
  | armGazeCommand (request : β)
  | armStopCommand (request : β)
  | armDragCommand (request : β)
  | armImpedanceCommand (request : β)

structure ArmCommandRequest (β : Type) where
  command : Option (ArmCommand β) := none
  params : Option β := none

/-- `MobilityCommand.Request`, the alternatives. -/
inductive MobilityCommand (β : Type)
  | se2TrajectoryRequest (request : TimedRequest β)
  | se2VelocityRequest (request : TimedRequest β)
  | sitRequest (request : β)
  | standRequest (request : β)
  | stanceRequest (request : TimedRequest β)
  | stopRequest (request : β)
  | followArmRequest (request : β)

structure MobilityCommandRequest (β : Type) where
  command : Option (MobilityCommand β) := none
  params : Option β := none

structure ScalarTrajectoryPoint (β : Type) where
  point : ℚ := 0
  rest : β

structure ScalarTrajectory (β : Type) where
  points : List (ScalarTrajectoryPoint β) := []
  rest : β

structure ClawGripperCommandRequest (β : Type) where
  trajectory : Option (ScalarTrajectory β) := none
  rest : β

structure GripperCommandRequest (β : Type) where
  clawGripperCommand : Option (ClawGripperCommandRequest β) := none

@[ext] structure SynchronizedCommandRequest (β : Type) where
  armCommand : Option (ArmCommandRequest β) := none
  mobilityCommand : Option (MobilityCommandRequest β) := none
  gripperCommand : Option (GripperCommandRequest β) := none

/-- A robot command; the empty one has no alternative. -/
inductive RobotCommand (β : Type)
  | commandNotSet
  | fullBodyCommand (request : FullBodyCommandRequest β)
  | synchronizedCommand (request : SynchronizedCommandRequest β)

/-- `has_full_body_command`. -/
def RobotCommand.hasFullBodyCommand : RobotCommand β → Bool
  | .fullBodyCommand _ => true
  | _ => false

/-- `synchronized_command`, which reads an unset alternative as the default. -/
def RobotCommand.synchronized : RobotCommand β → SynchronizedCommandRequest β
  | .synchronizedCommand request => request
  | _ => {}

/-- `mutable_synchronized_command`, which chooses that alternative if it is not set. -/
def RobotCommand.mutateSynchronized
    (mutate : SynchronizedCommandRequest β → SynchronizedCommandRequest β)
    (command : RobotCommand β) : RobotCommand β :=
  .synchronizedCommand (mutate command.synchronized)

end SpotSdk.Api
