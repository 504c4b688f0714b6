import Mathlib.Algebra.Order.Field.Rat
import SpotSdk.RobotCommand.RobotCommands

/-!
# Commands built on other commands

`BuildSynchroCommand` combines two synchronized commands. The builders of arm and gripper
commands use it to add the sub-commands of a given command to the one they build.

## Implementation notes

Numbers of type `double` are rational here, without rounding. `NanosecondsToDuration` of
the protobuf library is a parameter.
-/

namespace SpotSdk.Api

open SpotSdk.Common
open SpotSdk.Client.TimeSync (Duration)

variable {β : Type}

namespace SynchronizedCommandRequest

/-- The command has some sub-command. -/
def hasCommand (request : SynchronizedCommandRequest β) : Bool :=
  request.mobilityCommand.isSome || request.armCommand.isSome || request.gripperCommand.isSome

/-- The sub-commands of the first command, and those of the other one of other kinds. -/
def orElse (first other : SynchronizedCommandRequest β) : SynchronizedCommandRequest β where
  armCommand := first.armCommand.or other.armCommand
  mobilityCommand := first.mobilityCommand.or other.mobilityCommand
  gripperCommand := first.gripperCommand.or other.gripperCommand

end SynchronizedCommandRequest

def onlySynchronizedCommands : Status :=
  ⟨SDKErrorCode.genericSDKError.code,
    "This function only takes RobotCommands containing synchronized commands."⟩

def noInputCommands : Status :=
  ⟨SDKErrorCode.genericSDKError.code, "No input commands found."⟩

/-- `BuildSynchroCommand`: the status and the combined command after the call. -/
def buildSynchroCommand (additionalCommand combinedCommand : RobotCommand β) :
    Status × RobotCommand β :=
  if combinedCommand.hasFullBodyCommand || additionalCommand.hasFullBodyCommand then
    (onlySynchronizedCommands, combinedCommand)
  else
    let additional := additionalCommand.synchronized
    let (combined, hasCommand) :=
      match additional.mobilityCommand with
      | some mobility => (combinedCommand.mutateSynchronized fun request =>
          { request with mobilityCommand := some mobility }, true)
      | none => (combinedCommand, false)
    let (combined, hasCommand) :=
      match additional.armCommand with
      | some arm => (combined.mutateSynchronized fun request =>
          { request with armCommand := some arm }, true)
      | none => (combined, hasCommand)
    let (combined, hasCommand) :=
      match additional.gripperCommand with
      | some gripper => (combined.mutateSynchronized fun request =>
          { request with gripperCommand := some gripper }, true)
      | none => (combined, hasCommand)
    if hasCommand then (⟨SDKErrorCode.success.code, ""⟩, combined)
    else (noInputCommands, combined)

/-! ## The builders -/

section Builders

variable [Inhabited β]

def armNamedCommand (position : NamedArmPositions) : RobotCommand β :=
  .synchronizedCommand
    { armCommand := some { command := some (.namedArmPositionCommand { position := position }) } }

def armStowCommand : RobotCommand β := armNamedCommand .stow

def armReadyCommand : RobotCommand β := armNamedCommand .ready

def armCarryCommand : RobotCommand β := armNamedCommand .carry

def kClawGripperOpenAngle : ℚ := -15708 / 10000

def kClawGripperClosedAngle : ℚ := 0

def clawGripperOpenAngleCommand (gripperQ : ℚ) : RobotCommand β :=
  let trajectory : ScalarTrajectory β :=
    { points := [{ point := gripperQ, rest := default }], rest := default }
  .synchronizedCommand
    { gripperCommand := some
        { clawGripperCommand := some { trajectory := some trajectory, rest := default } } }

def clawGripperOpenCommand : RobotCommand β := clawGripperOpenAngleCommand kClawGripperOpenAngle

def clawGripperCloseCommand : RobotCommand β :=
  clawGripperOpenAngleCommand kClawGripperClosedAngle

variable (nanosecondsToDuration : Int64 → Duration)

/-- `SecToDuration`: the conversion to `int64_t` drops a fraction of a nanosecond. -/
def secToDuration (seconds : ℚ) : Duration :=
  let nanoseconds := seconds * 1000000000
  nanosecondsToDuration (Int64.ofInt (nanoseconds.num.tdiv nanoseconds.den))

def armPoseCommandFromPose (handPose : SE3Pose ℚ) (frameName : String) (seconds : ℚ) :
    RobotCommand β :=
  let handPoseTrajPoint : SE3TrajectoryPoint β :=
    { timeSinceReference := some (secToDuration nanosecondsToDuration seconds)
      pose := some handPose
      rest := default }
  let cartesian : ArmCartesianCommandRequest β :=
    { rootFrameName := frameName
      poseTrajectoryInTask := some { points := [handPoseTrajPoint], rest := default }
      rest := default }
  .synchronizedCommand { armCommand := some { command := some (.armCartesianCommand cartesian) } }

def armPoseCommand (x y z qw qx qy qz : ℚ) (frameName : String) (seconds : ℚ) : RobotCommand β :=
  armPoseCommandFromPose nanosecondsToDuration ⟨⟨x, y, z⟩, ⟨qw, qx, qy, qz⟩⟩ frameName seconds

end Builders

/-- What every builder does with the command it is to build on. -/
def buildOn (command buildOnCommand : RobotCommand β) : Result (RobotCommand β) :=
  let (status, built) := buildSynchroCommand buildOnCommand command
  ⟨status, built⟩

section BuildOn

variable [Inhabited β] (nanosecondsToDuration : Int64 → Duration)
  (buildOnCommand : RobotCommand β)

def armNamedCommandOn (position : NamedArmPositions) : Result (RobotCommand β) :=
  buildOn (armNamedCommand position) buildOnCommand

def armStowCommandOn : Result (RobotCommand β) := armNamedCommandOn buildOnCommand .stow

def armReadyCommandOn : Result (RobotCommand β) := armNamedCommandOn buildOnCommand .ready

def armCarryCommandOn : Result (RobotCommand β) := armNamedCommandOn buildOnCommand .carry

def clawGripperOpenAngleCommandOn (gripperQ : ℚ) : Result (RobotCommand β) :=
  buildOn (clawGripperOpenAngleCommand gripperQ) buildOnCommand

def clawGripperOpenCommandOn : Result (RobotCommand β) :=
  clawGripperOpenAngleCommandOn buildOnCommand kClawGripperOpenAngle

def clawGripperCloseCommandOn : Result (RobotCommand β) :=
  clawGripperOpenAngleCommandOn buildOnCommand kClawGripperClosedAngle

def armPoseCommandFromPoseOn (handPose : SE3Pose ℚ) (frameName : String) (seconds : ℚ) :
    Result (RobotCommand β) :=
  buildOn (armPoseCommandFromPose nanosecondsToDuration handPose frameName seconds) buildOnCommand

def armPoseCommandOn (x y z qw qx qy qz : ℚ) (frameName : String) (seconds : ℚ) :
    Result (RobotCommand β) :=
  buildOn (armPoseCommand nanosecondsToDuration x y z qw qx qy qz frameName seconds)
    buildOnCommand

end BuildOn

/-- The builders that take a command to build on, with their other arguments. -/
inductive CommandBuilder
  | armNamed (position : NamedArmPositions)
  | armStow
  | armReady
  | armCarry
  | clawGripperOpenAngle (gripperQ : ℚ)
  | clawGripperOpen
  | clawGripperClose
  | armPoseFromPose (handPose : SE3Pose ℚ) (frameName : String) (seconds : ℚ)
  | armPose (x y z qw qx qy qz : ℚ) (frameName : String) (seconds : ℚ)

namespace CommandBuilder

variable [Inhabited β] (nanosecondsToDuration : Int64 → Duration)

/-- The command that a builder builds alone. -/
def command : CommandBuilder → RobotCommand β
  | armNamed position => armNamedCommand position
  | armStow => armStowCommand
  | armReady => armReadyCommand
  | armCarry => armCarryCommand
  | clawGripperOpenAngle gripperQ => clawGripperOpenAngleCommand gripperQ
  | clawGripperOpen => clawGripperOpenCommand
  | clawGripperClose => clawGripperCloseCommand
  | armPoseFromPose handPose frameName seconds =>
      armPoseCommandFromPose nanosecondsToDuration handPose frameName seconds
  | armPose x y z qw qx qy qz frameName seconds =>
      armPoseCommand nanosecondsToDuration x y z qw qx qy qz frameName seconds

/-- A builder called with a command to build on. -/
def build (buildOnCommand : RobotCommand β) : CommandBuilder → Result (RobotCommand β)
  | armNamed position => armNamedCommandOn buildOnCommand position
  | armStow => armStowCommandOn buildOnCommand
  | armReady => armReadyCommandOn buildOnCommand
  | armCarry => armCarryCommandOn buildOnCommand
  | clawGripperOpenAngle gripperQ => clawGripperOpenAngleCommandOn buildOnCommand gripperQ
  | clawGripperOpen => clawGripperOpenCommandOn buildOnCommand
  | clawGripperClose => clawGripperCloseCommandOn buildOnCommand
  | armPoseFromPose handPose frameName seconds =>
      armPoseCommandFromPoseOn nanosecondsToDuration buildOnCommand handPose frameName seconds
  | armPose x y z qw qx qy qz frameName seconds =>
      armPoseCommandOn nanosecondsToDuration buildOnCommand x y z qw qx qy qz frameName seconds

/-- Every builder builds its own command on the given one. -/
theorem build_eq (builder : CommandBuilder) (buildOnCommand : RobotCommand β) :
    builder.build nanosecondsToDuration buildOnCommand =
      buildOn (builder.command nanosecondsToDuration) buildOnCommand := by
  cases builder <;> rfl

/-- What a builder builds alone is a synchronized command with some sub-command. -/
theorem command_synchronized (β : Type) [Inhabited β]
    (nanosecondsToDuration : Int64 → Duration) (builder : CommandBuilder) :
    (builder.command nanosecondsToDuration : RobotCommand β).hasFullBodyCommand = false ∧
      (builder.command nanosecondsToDuration : RobotCommand β).synchronized.hasCommand = true := by
  cases builder <;> exact ⟨rfl, rfl⟩

end CommandBuilder

section Combining

variable (additional combined : RobotCommand β)

/-- A full body command has no synchronized sub-commands. -/
theorem hasCommand_of_fullBody {command : RobotCommand β}
    (fullBody : command.hasFullBodyCommand = true) : command.synchronized.hasCommand = false := by
  cases command with
  | fullBodyCommand request => rfl
  | commandNotSet => cases fullBody
  | synchronizedCommand request => cases fullBody

theorem buildSynchroCommand_fullBody
    (fullBody : (combined.hasFullBodyCommand || additional.hasFullBodyCommand) = true) :
    buildSynchroCommand additional combined = (onlySynchronizedCommands, combined) := by
  rw [buildSynchroCommand, if_pos fullBody]

/-- Without a sub-command to add, the combined command is not looked at. -/
theorem buildSynchroCommand_nothing
    (synchronized : (combined.hasFullBodyCommand || additional.hasFullBodyCommand) = false)
    (nothing : additional.synchronized.hasCommand = false) :
    buildSynchroCommand additional combined = (noInputCommands, combined) := by
  simp only [SynchronizedCommandRequest.hasCommand, Bool.or_eq_false_iff,
    Option.isSome_eq_false_iff, Option.isNone_iff_eq_none] at nothing
  obtain ⟨⟨mobility, arm⟩, gripper⟩ := nothing
  simp [buildSynchroCommand, synchronized, mobility, arm, gripper]

/-- The sub-commands that are added replace those of the combined command. -/
theorem buildSynchroCommand_adds
    (synchronized : (combined.hasFullBodyCommand || additional.hasFullBodyCommand) = false)
    (adds : additional.synchronized.hasCommand = true) :
    buildSynchroCommand additional combined = (⟨SDKErrorCode.success.code, ""⟩,
      .synchronizedCommand (additional.synchronized.orElse combined.synchronized)) := by
  rw [buildSynchroCommand, if_neg (by rw [synchronized]; exact Bool.false_ne_true)]
  generalize additional.synchronized = added at adds ⊢
  obtain ⟨arm, mobility, gripper⟩ := added
  cases mobility <;> cases arm <;> cases gripper
  case none.none.none => cases adds
  all_goals rfl

/-- The call succeeds exactly if there is a sub-command to add and no full body command. -/
theorem buildSynchroCommand_ok_iff :
    (buildSynchroCommand additional combined).1.ok = true ↔
      (combined.hasFullBodyCommand || additional.hasFullBodyCommand) = false ∧
        additional.synchronized.hasCommand = true := by
  cases fullBody : (combined.hasFullBodyCommand || additional.hasFullBodyCommand) with
  | true =>
      rw [buildSynchroCommand_fullBody _ _ fullBody]
      constructor
      · intro ok
        cases ok
      · rintro ⟨⟨⟩, _⟩
  | false =>
      cases adds : additional.synchronized.hasCommand with
      | true =>
          rw [buildSynchroCommand_adds _ _ fullBody adds]
          exact ⟨fun _ => ⟨rfl, rfl⟩, fun _ => rfl⟩
      | false =>
          rw [buildSynchroCommand_nothing _ _ fullBody adds]
          constructor
          · intro ok
            cases ok
          · rintro ⟨_, ⟨⟩⟩

theorem buildSynchroCommand_unmodified
    (failed : (buildSynchroCommand additional combined).1.ok = false) :
    (buildSynchroCommand additional combined).2 = combined := by
  cases fullBody : (combined.hasFullBodyCommand || additional.hasFullBodyCommand) with
  | true => rw [buildSynchroCommand_fullBody _ _ fullBody]
  | false =>
      cases adds : additional.synchronized.hasCommand with
      | true =>
          rw [(buildSynchroCommand_ok_iff additional combined).mpr ⟨fullBody, adds⟩] at failed
          cases failed
      | false => rw [buildSynchroCommand_nothing _ _ fullBody adds]

/-- What is documented of `BuildSynchroCommand`: it fails exactly if a command is a full
body command or neither has a sub-command, and a failure modifies nothing. -/
structure Combines : Prop where
  fails : (buildSynchroCommand additional combined).1.ok = false ↔
    additional.hasFullBodyCommand = true ∨ combined.hasFullBodyCommand = true ∨
      additional.synchronized.hasCommand = false ∧ combined.synchronized.hasCommand = false
  unmodified : (buildSynchroCommand additional combined).1.ok = false →
    (buildSynchroCommand additional combined).2 = combined

/-- `BuildSynchroCommand` is as documented unless only the combined command has a
sub-command. -/
theorem combines_iff :
    Combines additional combined ↔ additional.hasFullBodyCommand = true ∨
      additional.synchronized.hasCommand = true ∨
      combined.synchronized.hasCommand = false := by
  have ok := buildSynchroCommand_ok_iff additional combined
  rw [Bool.or_eq_false_iff] at ok
  constructor
  · intro combines
    cases adds : additional.synchronized.hasCommand with
    | true => exact .inr (.inl rfl)
    | false =>
        have failed : (buildSynchroCommand additional combined).1.ok = false := by
          rw [Bool.eq_false_iff, ne_eq, ok, adds]
          rintro ⟨_, ⟨⟩⟩
        rcases combines.fails.mp failed with fullBody | fullBody | ⟨_, nothing⟩
        · exact .inl fullBody
        · exact .inr (.inr (hasCommand_of_fullBody fullBody))
        · exact .inr (.inr nothing)
  · intro condition
    refine ⟨?_, buildSynchroCommand_unmodified additional combined⟩
    rw [Bool.eq_false_iff, ne_eq, ok]
    constructor
    · intro failed
      cases fullBody : additional.hasFullBodyCommand with
      | true => exact .inl rfl
      | false =>
          cases combinedFullBody : combined.hasFullBodyCommand with
          | true => exact .inr (.inl rfl)
          | false =>
              have nothing : additional.synchronized.hasCommand = false := by
                rw [Bool.eq_false_iff]
                exact fun adds => failed ⟨⟨combinedFullBody, fullBody⟩, adds⟩
              rcases condition with condition | condition | condition
              · rw [fullBody] at condition
                cases condition
              · rw [nothing] at condition
                cases condition
              · exact .inr (.inr ⟨nothing, condition⟩)
    · rintro (fullBody | fullBody | ⟨nothing, _⟩) ⟨⟨combinedNot, additionalNot⟩, adds⟩
      · exact Bool.false_ne_true (additionalNot.symm.trans fullBody)
      · exact Bool.false_ne_true (combinedNot.symm.trans fullBody)
      · exact Bool.false_ne_true (nothing.symm.trans adds)

end Combining

/-! ## What the builders return -/

section Building

/-- Sub-commands of the same kind are the same. -/
structure SynchronizedCommandRequest.Compatible (a b : SynchronizedCommandRequest β) : Prop where
  armCommand : ∀ x y, a.armCommand = some x → b.armCommand = some y → x = y
  mobilityCommand : ∀ x y, a.mobilityCommand = some x → b.mobilityCommand = some y → x = y
  gripperCommand : ∀ x y, a.gripperCommand = some x → b.gripperCommand = some y → x = y

theorem option_or_comm_iff {α : Type} (a b : Option α) :
    a.or b = b.or a ↔ ∀ x y, a = some x → b = some y → x = y := by
  cases a <;> cases b <;> simp

/-- It does not matter which of two compatible commands comes first. -/
theorem SynchronizedCommandRequest.orElse_comm_iff (a b : SynchronizedCommandRequest β) :
    a.orElse b = b.orElse a ↔ a.Compatible b := by
  rw [SynchronizedCommandRequest.ext_iff]
  simp only [orElse, option_or_comm_iff]
  constructor
  · rintro ⟨arm, mobility, gripper⟩
    exact ⟨arm, mobility, gripper⟩
  · rintro ⟨arm, mobility, gripper⟩
    exact ⟨arm, mobility, gripper⟩

/-- What is documented of a builder that builds a command on another: it fails exactly on
a full body command; it returns the command it builds with the other sub-commands of the
given one, or an empty command if it fails. -/
structure BuildsOn (command buildOnCommand : RobotCommand β) (result : Result (RobotCommand β)) :
    Prop where
  fails : result.ok = false ↔ buildOnCommand.hasFullBodyCommand = true
  success : result.ok = true → result.response =
    .synchronizedCommand (command.synchronized.orElse buildOnCommand.synchronized)
  failure : result.ok = false → result.response = .commandNotSet

/-- A synchronized command is built on another as documented exactly if that one is no full
body command and has some sub-command, but none of the same kind that differs. -/
theorem buildOn_iff {command : RobotCommand β} (synchronized : command.hasFullBodyCommand = false)
    (hasCommand : command.synchronized.hasCommand = true) (buildOnCommand : RobotCommand β) :
    BuildsOn command buildOnCommand (buildOn command buildOnCommand) ↔
      buildOnCommand.hasFullBodyCommand = false ∧
        buildOnCommand.synchronized.hasCommand = true ∧
        command.synchronized.Compatible buildOnCommand.synchronized := by
  have ok : (buildOn command buildOnCommand).ok = true ↔
      buildOnCommand.hasFullBodyCommand = false ∧
        buildOnCommand.synchronized.hasCommand = true := by
    have ok := buildSynchroCommand_ok_iff buildOnCommand command
    rw [synchronized, Bool.false_or] at ok
    exact ok
  -- what is returned with a failure is the command that was built
  have failure : (buildOn command buildOnCommand).ok = false →
      (buildOn command buildOnCommand).response ≠ .commandNotSet := by
    intro failed empty
    have unmodified : (buildOn command buildOnCommand).response = command :=
      buildSynchroCommand_unmodified _ _ failed
    rw [unmodified.symm.trans empty] at hasCommand
    cases hasCommand
  rw [← SynchronizedCommandRequest.orElse_comm_iff]
  cases succeeds : (buildOn command buildOnCommand).ok with
  | false =>
      constructor
      · intro built
        exact absurd (built.failure succeeds) (failure succeeds)
      · rintro ⟨notFullBody, some, _⟩
        rw [ok.mpr ⟨notFullBody, some⟩] at succeeds
        cases succeeds
  | true =>
      obtain ⟨notFullBody, some⟩ := ok.mp succeeds
      have response : (buildOn command buildOnCommand).response = .synchronizedCommand
          (buildOnCommand.synchronized.orElse command.synchronized) := by
        have called := buildSynchroCommand_adds buildOnCommand command
          (by rw [synchronized, notFullBody]; rfl) some
        exact congrArg Prod.snd called
      constructor
      · intro built
        have requested := built.success succeeds
        rw [response] at requested
        exact ⟨notFullBody, some, (RobotCommand.synchronizedCommand.inj requested).symm⟩
      · rintro ⟨_, _, compatible⟩
        constructor
        · rw [succeeds, notFullBody]
          exact ⟨fun failed => failed.symm, fun failed => failed.symm⟩
        · intro _
          rw [response, compatible]
        · intro failed
          rw [succeeds] at failed
          cases failed

variable [Inhabited β]

/-- When the builders and `BuildSynchroCommand` are as documented. -/
theorem builders_documented_iff (nanosecondsToDuration : Int64 → Duration) :
    (∀ (builder : CommandBuilder) (buildOnCommand : RobotCommand β),
      BuildsOn (builder.command nanosecondsToDuration) buildOnCommand
          (builder.build nanosecondsToDuration buildOnCommand) ↔
        buildOnCommand.hasFullBodyCommand = false ∧
          buildOnCommand.synchronized.hasCommand = true ∧
          (builder.command nanosecondsToDuration : RobotCommand β).synchronized.Compatible
            buildOnCommand.synchronized) ∧
    ∀ additional combined : RobotCommand β,
      Combines additional combined ↔ additional.hasFullBodyCommand = true ∨
        additional.synchronized.hasCommand = true ∨
        combined.synchronized.hasCommand = false := by
  constructor
  · intro builder buildOnCommand
    obtain ⟨synchronized, hasCommand⟩ := builder.command_synchronized β nanosecondsToDuration
    rw [builder.build_eq]
    exact buildOn_iff synchronized hasCommand buildOnCommand
  · exact combines_iff

/-- The arm is to get ready, built on a command to stow it: the robot is told to stow it.
And a command is combined with nothing. -/
theorem armReady_on_armStow :
    (armReadyCommandOn (armStowCommand : RobotCommand Unit)).ok = true ∧
      (armReadyCommandOn (armStowCommand : RobotCommand Unit)).response = armStowCommand ∧
      ¬BuildsOn armReadyCommand armStowCommand
        (armReadyCommandOn (armStowCommand : RobotCommand Unit)) ∧
      ¬Combines .commandNotSet (armStowCommand : RobotCommand Unit) := by
  refine ⟨rfl, rfl, ?_, ?_⟩
  · intro built
    have requested := built.success rfl
    cases requested
  · intro combines
    rcases (combines_iff _ _).mp combines with fullBody | adds | nothing
    · cases fullBody
    · cases adds
    · cases nothing

end Building

end SpotSdk.Api
