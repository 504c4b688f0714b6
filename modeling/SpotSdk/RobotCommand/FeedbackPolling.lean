import SpotSdk.Common.RpcErrorCode
import SpotSdk.Foundations.TurnLoops

/-!
# Polling the feedback of a command

Four helpers ask for the feedback of a robot command until it says that the command has come
to its end, or until a deadline. They share the loop and the rule for failed calls and differ
in the feedback they look at. A call that timed out should never decide, but its response is
looked at like any other.

## Implementation notes

The clock readings and the results of the calls are inputs, one turn of the loop after
another. Without a positive timeout the reading of a turn is not used. Times are numbers of
nanoseconds in 64 bits; the sum of the start and the timeout wraps.
-/

namespace SpotSdk.Api

/-! ## Feedback messages -/

inductive ArmCartesianCommand.FeedbackStatus
  | unknown
  | trajectoryComplete
  | inProgress
  | trajectoryCancelled
  | trajectoryStalled
  | unrecognized (value : Int)
  deriving DecidableEq, Repr

inductive GazeCommand.FeedbackStatus
  | unknown
  | trajectoryComplete
  | inProgress
  | toolTrajectoryStalled
  | unrecognized (value : Int)
  deriving DecidableEq, Repr

inductive ArmImpedanceCommand.FeedbackStatus
  | unknown
  | trajectoryComplete
  | inProgress
  | trajectoryStalled
  | trajectoryCancelled
  | unrecognized (value : Int)
  deriving DecidableEq, Repr

inductive ArmJointMoveCommand.FeedbackStatus
  | unknown
  | complete
  | inProgress
  | stalled
  | unrecognized (value : Int)
  deriving DecidableEq, Repr

inductive NamedArmPositionsCommand.FeedbackStatus
  | unknown
  | complete
  | inProgress
  | stalledHoldingItem
  | unrecognized (value : Int)
  deriving DecidableEq, Repr

/-- The `feedback` of `ArmCommand::Feedback`. -/
inductive ArmFeedback
  | armCartesianFeedback (status : ArmCartesianCommand.FeedbackStatus)
  | armJointMoveFeedback (status : ArmJointMoveCommand.FeedbackStatus)
  | namedArmPositionFeedback (status : NamedArmPositionsCommand.FeedbackStatus)
  | armVelocityFeedback
  | armGazeFeedback (status : GazeCommand.FeedbackStatus)
  | armStopFeedback
  | armDragFeedback
  | armImpedanceFeedback (status : ArmImpedanceCommand.FeedbackStatus)
  deriving DecidableEq, Repr

inductive ClawGripperCommand.FeedbackStatus
  | unknown
  | inProgress
  | atGoal
  | applyingForce
  | unrecognized (value : Int)
  deriving DecidableEq, Repr

inductive StandCommand.FeedbackStatus
  | unknown
  | isStanding
  | inProgress
  | unrecognized (value : Int)
  deriving DecidableEq, Repr

inductive SE2TrajectoryCommand.FeedbackStatus
  | unknown
  | stopped
  | inProgress
  | stopping
  | unrecognized (value : Int)
  deriving DecidableEq, Repr

/-- The `feedback` of `MobilityCommand::Feedback`. -/
inductive MobilityFeedback
  | se2TrajectoryFeedback (status : SE2TrajectoryCommand.FeedbackStatus)
  | se2VelocityFeedback
  | sitFeedback
  | standFeedback (status : StandCommand.FeedbackStatus)
  | stanceFeedback
  | stopFeedback
  | followArmFeedback
  deriving DecidableEq, Repr

/-- `SynchronizedCommand::Feedback`: what is set of each part. -/
structure SynchronizedFeedback where
  armCommandFeedback : Option ArmFeedback := none
  mobilityCommandFeedback : Option MobilityFeedback := none
  clawGripperFeedback : Option ClawGripperCommand.FeedbackStatus := none
  deriving DecidableEq, Repr

inductive RobotCommandFeedback
  | fullBodyFeedback
  | synchronizedFeedback (feedback : SynchronizedFeedback)
  deriving DecidableEq, Repr

structure RobotCommandFeedbackResponse where
  feedback : Option RobotCommandFeedback := none
  deriving DecidableEq, Repr

namespace RobotCommandFeedbackResponse

/-- A message that is not set reads as the empty one. -/
def synchronizedFeedback (response : RobotCommandFeedbackResponse) : SynchronizedFeedback :=
  match response.feedback with
  | some (.synchronizedFeedback feedback) => feedback
  | _ => {}

def clawGripperStatus (response : RobotCommandFeedbackResponse) :
    ClawGripperCommand.FeedbackStatus :=
  response.synchronizedFeedback.clawGripperFeedback.getD .unknown

def standStatus (response : RobotCommandFeedbackResponse) : StandCommand.FeedbackStatus :=
  match response.synchronizedFeedback.mobilityCommandFeedback with
  | some (.standFeedback status) => status
  | _ => .unknown

def se2TrajectoryStatus (response : RobotCommandFeedbackResponse) :
    SE2TrajectoryCommand.FeedbackStatus :=
  match response.synchronizedFeedback.mobilityCommandFeedback with
  | some (.se2TrajectoryFeedback status) => status
  | _ => .unknown

end RobotCommandFeedbackResponse

end SpotSdk.Api

namespace SpotSdk.Client

open Foundations Common Api

/-! ## The helpers -/

def blockingRobotCommandErrorCategory : ErrorCategory := ⟨"BlockingRobotCommandErrorCode", [0]⟩

inductive BlockingRobotCommandErrorCode
  | success
  | commandFeedbackError
  | commandTimeoutError
  deriving DecidableEq, Repr

def BlockingRobotCommandErrorCode.code : BlockingRobotCommandErrorCode → ErrorCode
  | success => ⟨blockingRobotCommandErrorCategory, 0⟩
  | commandFeedbackError => ⟨blockingRobotCommandErrorCategory, 1⟩
  | commandTimeoutError => ⟨blockingRobotCommandErrorCategory, 2⟩

/-- `RobotCommandFeedbackResultType`. -/
abbrev FeedbackResult := Result RobotCommandFeedbackResponse

/-- What one turn of the loop reads: the clock, and the result of its call. -/
structure FeedbackTurn where
  clock : Int64
  result : FeedbackResult
  deriving DecidableEq, Repr

def commandSucceeded : Status := ⟨BlockingRobotCommandErrorCode.success.code, ""⟩

def commandFeedbackError : Status := ⟨BlockingRobotCommandErrorCode.commandFeedbackError.code, ""⟩

def unexpectedArmFeedback : Status :=
  ⟨BlockingRobotCommandErrorCode.commandFeedbackError.code,
    "Expected one of the following commands: ArmCartesianCommand, GazeCommand, " ++
      "ArmJointMoveCommand, NamedArmPositionsCommand, or ArmImpedanceCommand."⟩

def commandTimeoutError (message : String) : Status :=
  ⟨BlockingRobotCommandErrorCode.commandTimeoutError.code, message⟩

/-- One turn of the loop, over what its helper makes of a response: a status to return, or
one more turn. The state is the result of the last call. -/
def feedbackTurn (onFeedback : RobotCommandFeedbackResponse → Option Status) (message : String)
    (timeout endTime : Int64) (feedbackRes : FeedbackResult) (turn : FeedbackTurn) :
    Except FeedbackResult FeedbackResult :=
  if timeout ≤ 0 ∨ turn.clock < endTime then
    let feedbackRes := turn.result
    if feedbackRes.ok = false ∧ feedbackRes.status.code ≠ RPCErrorCode.timedOutError.code then
      .error feedbackRes
    else
      match onFeedback feedbackRes.response with
      | some status => .error ⟨status, feedbackRes.response⟩
      | none => .ok feedbackRes
  else .error ⟨commandTimeoutError message, feedbackRes.response⟩

/-- The loop of the helpers: how many turns it goes on after, and what it returns. -/
def blockUntil (onFeedback : RobotCommandFeedbackResponse → Option Status) (message : String)
    (startTime timeout : Int64) (turns : List FeedbackTurn) : Nat × Option FeedbackResult :=
  takeTurns (feedbackTurn onFeedback message timeout (startTime + timeout))
    ⟨Status.unset, {}⟩ turns

def onArmFeedback (response : RobotCommandFeedbackResponse) : Option Status :=
  match response.synchronizedFeedback.armCommandFeedback with
  | some (.armCartesianFeedback status) =>
      if status = .trajectoryComplete then some commandSucceeded
      else if status = .trajectoryStalled ∨ status = .trajectoryCancelled then
        some commandFeedbackError
      else none
  | some (.armGazeFeedback status) =>
      if status = .trajectoryComplete then some commandSucceeded
      else if status = .toolTrajectoryStalled then some commandFeedbackError
      else none
  | some (.armImpedanceFeedback status) =>
      -- A cancelled trajectory is not looked for.
      if status = .trajectoryComplete then some commandSucceeded
      else if status = .trajectoryStalled then some commandFeedbackError
      else none
  | some (.armJointMoveFeedback status) =>
      if status = .complete then some commandSucceeded
      else if status = .stalled then some commandFeedbackError
      else none
  | some (.namedArmPositionFeedback status) =>
      if status = .complete then some commandSucceeded
      else if status = .stalledHoldingItem then some commandFeedbackError
      else none
  | _ => some unexpectedArmFeedback

/-- `BlockUntilArmArrives`. -/
def blockUntilArmArrives : Int64 → Int64 → List FeedbackTurn → Nat × Option FeedbackResult :=
  blockUntil onArmFeedback "ArmCommand failed or timed out."

def onGripperFeedback (response : RobotCommandFeedbackResponse) : Option Status :=
  if response.clawGripperStatus = .atGoal ∨ response.clawGripperStatus = .applyingForce then
    some commandSucceeded
  else none

/-- `BlockUntilGripperArrives`. -/
def blockUntilGripperArrives : Int64 → Int64 → List FeedbackTurn → Nat × Option FeedbackResult :=
  blockUntil onGripperFeedback "The GripperCommand failed or timed out."

def onStandFeedback (response : RobotCommandFeedbackResponse) : Option Status :=
  if response.standStatus = .isStanding then some commandSucceeded else none

/-- `BlockUntilStandComplete`. -/
def blockUntilStandComplete : Int64 → Int64 → List FeedbackTurn → Nat × Option FeedbackResult :=
  blockUntil onStandFeedback "The StandCommand failed or timed out."

def onTrajectoryFeedback (response : RobotCommandFeedbackResponse) : Option Status :=
  if response.se2TrajectoryStatus = .stopped then some commandSucceeded else none

/-- `BlockUntilSE2TrajectoryComplete`. -/
def blockUntilSE2TrajectoryComplete :
    Int64 → Int64 → List FeedbackTurn → Nat × Option FeedbackResult :=
  blockUntil onTrajectoryFeedback "The TrajectoryCommand failed or timed out."

inductive FeedbackHelper
  | armArrives
  | gripperArrives
  | standComplete
  | se2TrajectoryComplete
  deriving DecidableEq, Repr

namespace FeedbackHelper

def block : FeedbackHelper → Int64 → Int64 → List FeedbackTurn → Nat × Option FeedbackResult
  | armArrives => blockUntilArmArrives
  | gripperArrives => blockUntilGripperArrives
  | standComplete => blockUntilStandComplete
  | se2TrajectoryComplete => blockUntilSE2TrajectoryComplete

def onFeedback : FeedbackHelper → RobotCommandFeedbackResponse → Option Status
  | armArrives => onArmFeedback
  | gripperArrives => onGripperFeedback
  | standComplete => onStandFeedback
  | se2TrajectoryComplete => onTrajectoryFeedback

def message : FeedbackHelper → String
  | armArrives => "ArmCommand failed or timed out."
  | gripperArrives => "The GripperCommand failed or timed out."
  | standComplete => "The StandCommand failed or timed out."
  | se2TrajectoryComplete => "The TrajectoryCommand failed or timed out."

theorem block_eq (helper : FeedbackHelper) (startTime timeout : Int64) (turns : List FeedbackTurn) :
    helper.block startTime timeout turns =
      blockUntil helper.onFeedback helper.message startTime timeout turns := by
  cases helper <;> rfl

end FeedbackHelper

end SpotSdk.Client
