import SpotSdk.Foundations.LabelledRuns
import SpotSdk.Frames.PlanarFrames
import SpotSdk.RobotCommand.RobotCommands

/-!
# Goals relative to the body

A goal that is given relative to the body is commanded in the odometry frame. The command
means the goal that was given, from whichever world frame it is seen, and the goals of a
walk compose, however the body is tilted where it stops.
-/

namespace SpotSdk.Api

open SpotSdk.Common SpotSdk.Foundations
open SpotSdk.Client.TimeSync (Timestamp)

variable {K M : Type}

/-- What the trajectory commands set: the frame and the points of an
`SE2TrajectoryCommand.Request`, and packed mobility parameters. -/
inductive GotoFields (K M : Type)
  | trajectory (se2FrameName : String) (points : List (SE2Pose K))
  | params (packed : M)

/-- The end time and the points of `mutable_se2_trajectory_request`, which chooses that
alternative if it is not set. -/
def MobilityCommand.trajectoryRequest :
    Option (MobilityCommand (GotoFields K M)) → Option Timestamp × List (SE2Pose K)
  | some (.se2TrajectoryRequest ⟨endTime, .trajectory _ points⟩) => (endTime, points)
  | _ => (none, [])

def addGotoToCommand (gotoPt : SE2Pose K) (se2FrameName : String) :
    RobotCommand (GotoFields K M) → RobotCommand (GotoFields K M) :=
  RobotCommand.mutateSynchronized fun request =>
    let mobility := request.mobilityCommand.getD {}
    let (endTime, points) := MobilityCommand.trajectoryRequest mobility.command
    { request with
      mobilityCommand := some { mobility with
        command := some (.se2TrajectoryRequest
          ⟨endTime, .trajectory se2FrameName (points ++ [gotoPt])⟩) } }

/-- `TrajectoryCommand`. -/
def trajectoryCommand (gotoPose : SE2Pose K) (se2FrameName : String) (params : M) :
    RobotCommand (GotoFields K M) :=
  addGotoToCommand gotoPose se2FrameName
    (RobotCommand.commandNotSet.mutateSynchronized fun request =>
      { request with
        mobilityCommand := some { request.mobilityCommand.getD {} with
          params := some (.params params) } })

/-- The frame and the last point of a commanded trajectory. -/
def RobotCommand.goal? (command : RobotCommand (GotoFields K M)) : Option (String × SE2Pose K) :=
  match command.synchronized.mobilityCommand.bind (·.command) with
  | some (.se2TrajectoryRequest ⟨_, .trajectory frame points⟩) => points.getLast?.map (frame, ·)
  | _ => none

/-- `TrajectoryCommandInBodyFrame`. -/
def trajectoryCommandInBodyFrame [Field K] [LinearOrder K] (lib : AngleLibrary K)
    (goalXRtBody goalYRtBody goalHeadingRtBody : K) (frameTreeSnapshot : FrameTreeSnapshot K)
    (params : M) : Option (Result (RobotCommand (GotoFields K M))) :=
  let gotoRtBody : SE2Pose K := ⟨⟨goalXRtBody, goalYRtBody⟩, goalHeadingRtBody⟩
  match frameTreeSnapshot.getSE2ATformB lib kOdomFrame kGravAlignedBodyFrame .identity with
  | none => none
  | some (false, _) => some
      ⟨⟨SDKErrorCode.genericSDKError.code,
        "Failed to find the odom_tform_body transform in the robot state snapshot."⟩,
        .commandNotSet⟩
  | some (true, odomTformBody) =>
      let odomTformGoto := SE2Pose.compose lib.toMathLibrary odomTformBody gotoRtBody
      some ⟨⟨SDKErrorCode.success.code, ""⟩, trajectoryCommand odomTformGoto kOdomFrame params⟩

theorem trajectoryCommand_goal (gotoPose : SE2Pose K) (se2FrameName : String) (params : M) :
    (trajectoryCommand gotoPose se2FrameName params).goal? = some (se2FrameName, gotoPose) :=
  rfl

/-! ## Walks of planar poses -/

namespace SE2Pose

variable [CommRing K] {lib : MathLibrary K}

/-- The pose after these motions, each relative to the pose before it. -/
def walk (lib : MathLibrary K) (a : SE2Pose K) (gotos : List (SE2Pose K)) : SE2Pose K :=
  gotos.foldl (compose lib) a

/-- The motions back. -/
def back (lib : MathLibrary K) (gotos : List (SE2Pose K)) : List (SE2Pose K) :=
  (gotos.map (inverse lib)).reverse

theorem SameMotion.walk (exact : lib.IsExact) {a b : SE2Pose K} (gotos : List (SE2Pose K))
    (same : SameMotion lib a b) : SameMotion lib (a.walk lib gotos) (b.walk lib gotos) := by
  induction gotos generalizing a b with
  | nil => exact same
  | cons goto gotos ih =>
      apply ih
      exact same.compose exact (SameMotion.refl goto)

/-- The way back leads to the pose at the start. -/
theorem walk_back (exact : lib.IsExact) (a : SE2Pose K) (gotos : List (SE2Pose K)) :
    a.walk lib (gotos ++ back lib gotos) = a := by
  induction gotos generalizing a with
  | nil => rfl
  | cons goto gotos ih =>
      have middle : (compose lib a goto).walk lib (gotos ++ back lib gotos) =
          compose lib a goto := ih _
      calc a.walk lib (goto :: gotos ++ back lib (goto :: gotos))
          = compose lib ((compose lib a goto).walk lib (gotos ++ back lib gotos))
              (inverse lib goto) := by
            simp [walk, back]
        _ = compose lib (compose lib a goto) (inverse lib goto) := by rw [middle]
        _ = compose lib a (compose lib goto (inverse lib goto)) := compose_assoc exact ..
        _ = compose lib a identity := by rw [compose_inverse exact]
        _ = a := compose_identity a

end SE2Pose

/-! ## Goals in the world -/

section Goals

variable [Field K] [LinearOrder K] {lib : AngleLibrary K} {snapshot : FrameTreeSnapshot K}
  {gotoRtBody goal : SE2Pose K} {params : M}

/-- The planar pose of the body in the odometry frame. -/
def FrameTreeSnapshot.BodyAt (lib : AngleLibrary K) (snapshot : FrameTreeSnapshot K)
    (pose : SE2Pose K) : Prop :=
  snapshot.getSE2ATformB lib kOdomFrame kGravAlignedBodyFrame .identity = some (true, pose)

/-- A goal relative to the body is commanded as this goal in the odometry frame. -/
def CommandsGoal (lib : AngleLibrary K) (snapshot : FrameTreeSnapshot K) (params : M)
    (gotoRtBody goal : SE2Pose K) : Prop :=
  ∃ command, trajectoryCommandInBodyFrame lib gotoRtBody.position.x gotoRtBody.position.y
      gotoRtBody.angle snapshot params = some ⟨⟨SDKErrorCode.success.code, ""⟩, command⟩ ∧
    command.goal? = some (kOdomFrame, goal)

theorem commandsGoal_iff : CommandsGoal lib snapshot params gotoRtBody goal ↔
    ∃ odomTformBody, snapshot.BodyAt lib odomTformBody ∧
      goal = .compose lib.toMathLibrary odomTformBody gotoRtBody := by
  rw [CommandsGoal, trajectoryCommandInBodyFrame]
  cases planar : snapshot.getSE2ATformB lib kOdomFrame kGravAlignedBodyFrame .identity with
  | none => simp [FrameTreeSnapshot.BodyAt, planar]
  | some answer =>
      obtain ⟨found, odomTformBody⟩ := answer
      cases found with
      | false => simp [FrameTreeSnapshot.BodyAt, planar, SDKErrorCode.code]
      | true =>
          simp [FrameTreeSnapshot.BodyAt, planar, trajectoryCommand_goal, eq_comm]

/-- A snapshot that relates the odometry frame to the body. -/
def FrameTreeSnapshot.HasBody (snapshot : FrameTreeSnapshot K) : Prop :=
  snapshot.validateFrameTreeSnapshot = some .valid ∧ kOdomFrame ∈ snapshot ∧ kBodyFrame ∈ snapshot

/-- What is promised of goals relative to the body. -/
structure CommandsBodyGoals (lib : AngleLibrary K) (snapshot : FrameTreeSnapshot K)
    (params : M) : Prop where
  commands : ∀ gotoRtBody, (∃ goal, CommandsGoal lib snapshot params gotoRtBody goal) ↔
    snapshot.HasBody
  refuses : ¬ snapshot.HasBody → ∀ x y heading,
    trajectoryCommandInBodyFrame lib x y heading snapshot params = some
      ⟨⟨SDKErrorCode.genericSDKError.code,
        "Failed to find the odom_tform_body transform in the robot state snapshot."⟩,
        .commandNotSet⟩
  relative : ∀ gotoRtBody goal, CommandsGoal lib snapshot params gotoRtBody goal →
    ∃ odomTformBody, snapshot.BodyAt lib odomTformBody ∧
      .compose lib.toMathLibrary (odomTformBody.inverse lib.toMathLibrary) goal = gotoRtBody
  spatial : ∀ gotoRtBody goal pose zHeight, CommandsGoal lib snapshot params gotoRtBody goal →
    snapshot.getATformB kOdomFrame kBodyFrame = some (some pose) → pose.rotation.YawOnly →
    goal.inflate lib.toMathLibrary (pose.position.z + zHeight) =
      pose * gotoRtBody.inflate lib.toMathLibrary zHeight
  seen : ∀ world worldTformOdom gotoRtBody goal, snapshot.Level world kOdomFrame →
    snapshot.UprightIn kOdomFrame kGravAlignedBodyFrame →
    snapshot.getSE2ATformB lib world kOdomFrame .identity = some (true, worldTformOdom) →
    CommandsGoal lib snapshot params gotoRtBody goal →
    ∃ worldTformBody,
      snapshot.getSE2ATformB lib world kGravAlignedBodyFrame .identity =
        some (true, worldTformBody) ∧
      SE2Pose.SameMotion lib.toMathLibrary (.compose lib.toMathLibrary worldTformOdom goal)
        (.compose lib.toMathLibrary worldTformBody gotoRtBody)

/-- The body has a planar pose exactly in a snapshot with it, and it is flattened. -/
theorem FrameTreeSnapshot.bodyAt_iff {pose : SE2Pose K} : snapshot.BodyAt lib pose ↔
    ∃ odomTformBody, snapshot.getATformB kOdomFrame kBodyFrame = some (some odomTformBody) ∧
      odomTformBody.flatten lib = pose := by
  have aligned : isGravityAlignedFrameName kOdomFrame = true := by decide
  have odom : se2StringToClosestSE3String kOdomFrame = kOdomFrame := by decide
  have body : se2StringToClosestSE3String kGravAlignedBodyFrame = kBodyFrame := by decide
  rw [BodyAt, getSE2ATformB_eq_true_iff, odom, body]
  exact and_iff_right aligned

theorem exists_commandsGoal_iff : (∃ goal, CommandsGoal lib snapshot params gotoRtBody goal) ↔
    snapshot.HasBody := by
  rw [FrameTreeSnapshot.HasBody, ← FrameTreeSnapshot.exists_getATformB_iff]
  constructor
  · rintro ⟨goal, commanded⟩
    obtain ⟨_, stands, -⟩ := commandsGoal_iff.mp commanded
    obtain ⟨pose, spatial, -⟩ := FrameTreeSnapshot.bodyAt_iff.mp stands
    exact ⟨pose, spatial⟩
  · rintro ⟨pose, spatial⟩
    exact ⟨_, commandsGoal_iff.mpr
      ⟨_, FrameTreeSnapshot.bodyAt_iff.mpr ⟨pose, spatial, rfl⟩, rfl⟩⟩

variable [IsStrictOrderedRing K]

theorem commandsBodyGoals_of_isExact (exact : lib.IsExact) (units : snapshot.HasUnitRotations) :
    CommandsBodyGoals lib snapshot params := by
  constructor
  case commands => exact fun _ => exists_commandsGoal_iff
  case refuses =>
    intro bodiless x y heading
    have odom : se2StringToClosestSE3String kOdomFrame = kOdomFrame := by decide
    have body : se2StringToClosestSE3String kGravAlignedBodyFrame = kBodyFrame := by decide
    have refused := FrameTreeSnapshot.getATformB_of_not bodiless
    rw [trajectoryCommandInBodyFrame, FrameTreeSnapshot.getSE2ATformB, odom, body, refused]
  case relative =>
    intro gotoRtBody goal commanded
    obtain ⟨odomTformBody, stands, rfl⟩ := commandsGoal_iff.mp commanded
    refine ⟨odomTformBody, stands, ?_⟩
    rw [← SE2Pose.compose_assoc exact.toIsExact, SE2Pose.inverse_compose exact.toIsExact,
      SE2Pose.identity_compose exact.toIsExact]
  case spatial =>
    intro gotoRtBody goal pose zHeight commanded spatial level
    obtain ⟨odomTformBody, stands, rfl⟩ := commandsGoal_iff.mp commanded
    obtain ⟨pose', spatial', rfl⟩ := FrameTreeSnapshot.bodyAt_iff.mp stands
    obtain rfl := Option.some.inj (Option.some.inj (spatial.symm.trans spatial'))
    have unit := FrameTreeSnapshot.getATformB_isUnit units spatial
    rw [SE2Pose.inflate_compose exact.toIsExact,
      SE3Pose.inflate_flatten_of_yawOnly exact unit level]
  case seen =>
    intro world worldTformOdom gotoRtBody goal level upright found commanded
    obtain ⟨odomTformBody, stands, rfl⟩ := commandsGoal_iff.mp commanded
    obtain ⟨worldTformBody, composed, same⟩ :=
      FrameTreeSnapshot.getSE2ATformB_comp exact units level upright found stands
    refine ⟨worldTformBody, composed, ?_⟩
    rw [← SE2Pose.compose_assoc exact.toIsExact]
    exact (same.compose exact.toIsExact (SE2Pose.SameMotion.refl gotoRtBody)).symm

end Goals

/-! ## Walks -/

section Walks

variable [Field K] [LinearOrder K] {lib : AngleLibrary K} {params : M}
  {s t : FrameTreeSnapshot K} {gotos : List (SE2Pose K)} {start : SE2Pose K}

/-- The robot walks to a goal relative to its body: the goal is commanded, and afterwards
the body stands there, at any height and with any tilt. -/
def WalksTo (lib : AngleLibrary K) (params : M) (snapshot : FrameTreeSnapshot K)
    (gotoRtBody : SE2Pose K) (next : FrameTreeSnapshot K) : Prop :=
  ∃ goal pose, CommandsGoal lib snapshot params gotoRtBody goal ∧ next.BodyAt lib pose ∧
    SE2Pose.SameMotion lib.toMathLibrary pose goal

/-- After a walk the body stands where the goals lead from its first pose, one after the
other; after the way back it stands there again. -/
structure WalkComposes (lib : AngleLibrary K) (start : SE2Pose K) (gotos : List (SE2Pose K))
    (snapshot : FrameTreeSnapshot K) : Prop where
  stands : ∃ pose, snapshot.BodyAt lib pose ∧
    SE2Pose.SameMotion lib.toMathLibrary pose (start.walk lib.toMathLibrary gotos)
  returns : ∀ outward, gotos = outward ++ SE2Pose.back lib.toMathLibrary outward →
    ∃ pose, snapshot.BodyAt lib pose ∧ SE2Pose.SameMotion lib.toMathLibrary pose start

theorem stands_of_walk (exact : lib.IsExact) {pose : SE2Pose K} (stands : s.BodyAt lib pose)
    (same : SE2Pose.SameMotion lib.toMathLibrary pose start)
    (run : Run (WalksTo lib params) s gotos t) :
    ∃ pose', t.BodyAt lib pose' ∧
      SE2Pose.SameMotion lib.toMathLibrary pose' (start.walk lib.toMathLibrary gotos) := by
  induction run generalizing pose start with
  | nil s => exact ⟨pose, stands, same⟩
  | cons step tail ih =>
      obtain ⟨goal, next, commanded, arrived, reached⟩ := step
      obtain ⟨odomTformBody, stands', rfl⟩ := commandsGoal_iff.mp commanded
      obtain rfl : odomTformBody = pose := by
        have both := stands'.symm.trans stands
        exact (Prod.mk.inj (Option.some.inj both)).2
      apply ih arrived
      exact reached.trans (same.compose exact.toIsExact (SE2Pose.SameMotion.refl _))

theorem walkComposes_of_isExact (exact : lib.IsExact) (stands : s.BodyAt lib start)
    (run : Run (WalksTo lib params) s gotos t) : WalkComposes lib start gotos t := by
  have walked := stands_of_walk exact stands (SE2Pose.SameMotion.refl start) run
  constructor
  case stands => exact walked
  case returns =>
    rintro outward rfl
    rwa [SE2Pose.walk_back exact.toIsExact] at walked

end Walks

/-! ## Real arithmetic -/

section Real

variable {snapshot s t : FrameTreeSnapshot ℝ} {gotos : List (SE2Pose ℝ)} {start : SE2Pose ℝ}

/-- In real arithmetic a goal relative to the body is commanded exactly where a valid
snapshot has the body; the command means that goal, seen from the body, in space and from
every world frame that is level. -/
theorem commandsBodyGoals (params : M) (units : snapshot.HasUnitRotations) :
    CommandsBodyGoals realAngles snapshot params :=
  commandsBodyGoals_of_isExact realAngles_isExact units

/-- In real arithmetic the goals of every walk compose, and the way back leads to its start. -/
theorem bodyWalk_composes {params : M} (stands : s.BodyAt realAngles start)
    (run : Run (WalksTo realAngles params) s gotos t) : WalkComposes realAngles start gotos t :=
  walkComposes_of_isExact realAngles_isExact stands run

/-- A body in the odometry frame. -/
def standing (pose : SE3Pose ℝ) : FrameTreeSnapshot ℝ :=
  AList.insert "body" ⟨"odom", some pose⟩ (AList.insert "odom" {} ∅)

theorem standing_hasUnitRotations {pose : SE3Pose ℝ} (unit : pose.rotation.IsUnit) :
    (standing pose).HasUnitRotations := by
  refine FrameTreeSnapshot.hasUnitRotations_insert
    (FrameTreeSnapshot.hasUnitRotations_insert ?_ _ ?_) _ ?_
  · intro frame edge lookup
    cases lookup
  · exact fun named => absurd rfl named
  · exact fun _ => unit

theorem standing_bodyAt {pose : SE3Pose ℝ} (unit : pose.rotation.IsUnit) :
    (standing pose).BodyAt realAngles (pose.flatten realAngles) := by
  have edge : (standing pose).getATformB "odom" "body" = some (some pose) :=
    FrameTreeSnapshot.getATformB_of_edge rfl (standing_hasUnitRotations unit) (a := "body") rfl
      (show "odom" ≠ "" by decide)
  exact FrameTreeSnapshot.bodyAt_iff.mpr ⟨pose, edge, rfl⟩

/-- Any goals can be walked to. -/
theorem exists_walk {pose : SE3Pose ℝ} (unit : pose.rotation.IsUnit)
    (gotos : List (SE2Pose ℝ)) : ∃ t, Run (WalksTo realAngles ()) (standing pose) gotos t := by
  induction gotos generalizing pose with
  | nil => exact ⟨_, .nil _⟩
  | cons goto gotos ih =>
      let goal := SE2Pose.compose realLibrary (pose.flatten realAngles) goto
      have goalUnit : (goal.inflate realLibrary 0).rotation.IsUnit :=
        Quaternion.fromYaw_isUnit realLibrary_isExact goal.angle
      obtain ⟨t, run⟩ := ih goalUnit
      have walked : WalksTo realAngles () (standing pose) goto
          (standing (goal.inflate realLibrary 0)) :=
        ⟨goal, _, commandsGoal_iff.mpr ⟨_, standing_bodyAt unit, rfl⟩, standing_bodyAt goalUnit,
          SE3Pose.flatten_inflate realAngles_isExact goal 0⟩
      exact ⟨t, .cons walked run⟩

/-- A body that has walked one step and is rolled. -/
noncomputable def rolledAfterStep : SE3Pose ℝ :=
  ⟨⟨1, 0, 1⟩, ⟨Real.cos 1, Real.sin 1, 0, 0⟩⟩

theorem rolledAfterStep_isUnit : rolledAfterStep.rotation.IsUnit := by
  have unit := Real.cos_sq_add_sin_sq 1
  simp only [rolledAfterStep, Quaternion.IsUnit]
  linear_combination unit

/-- A rolled rotation does not turn. -/
theorem toYaw_rolled {q : Quaternion ℝ} (unit : q.IsUnit) (ahead : 0 < q.w) (z : q.z = 0) :
    realAngles.cos (q.toYaw realAngles) = 1 ∧ realAngles.sin (q.toYaw realAngles) = 0 := by
  have exact := realAngles_isExact
  have upright : q.Upright := by
    by_contra down
    exact ahead.ne' (Quaternion.not_upright_iff.mp down).1
  have mag : realAngles.sqrt (q.w * q.w + q.z * q.z) = q.w := by
    rw [z, mul_zero, add_zero]
    exact Real.sqrt_mul_self ahead.le
  have closest : q.closestYawOnly realAngles.toMathLibrary = 1 := by
    have turned := Quaternion.closestYawOnly_of_upright exact upright
    rw [mag, z, zero_div, div_self ahead.ne'] at turned
    exact turned
  have turn : Quaternion.fromYaw realAngles.toMathLibrary (q.toYaw realAngles) =
      Quaternion.fromYaw realAngles.toMathLibrary 0 := by
    rw [Quaternion.fromYaw_zero exact.toIsExact, ← closest]
    exact Quaternion.fromYaw_toYaw exact unit
  obtain ⟨cos, sin⟩ := Quaternion.same_of_fromYaw_eq exact.toIsExact turn
  rw [exact.cos_zero] at cos
  rw [exact.sin_zero] at sin
  exact ⟨cos, sin⟩

theorem flatten_rolledAfterStep :
    (rolledAfterStep.flatten realAngles).SameMotion realLibrary ⟨⟨1, 0⟩, 0⟩ := by
  obtain ⟨cos, sin⟩ := toYaw_rolled rolledAfterStep_isUnit Real.cos_one_pos rfl
  exact ⟨rfl, cos.trans Real.cos_zero.symm, sin.trans Real.sin_zero.symm⟩

/-- The goal of the rolled body is where it would be without the roll. -/
theorem commandsBodyGoals_rolled :
    ∃ goal, CommandsGoal realAngles (standing rolledAfterStep) () ⟨⟨1, 2⟩, 1⟩ goal ∧
      goal.SameMotion realLibrary ⟨⟨2, 2⟩, 1⟩ := by
  have promised := commandsBodyGoals () (standing_hasUnitRotations rolledAfterStep_isUnit)
  obtain ⟨goal, commanded⟩ := (promised.commands ⟨⟨1, 2⟩, 1⟩).mpr
    ⟨rfl, AList.lookup_isSome.mp rfl, AList.lookup_isSome.mp rfl⟩
  obtain ⟨body, stands, relative⟩ := promised.relative _ goal commanded
  obtain rfl : rolledAfterStep.flatten realAngles = body := by
    have both := (standing_bodyAt rolledAfterStep_isUnit).symm.trans stands
    exact (Prod.mk.inj (Option.some.inj both)).2
  have composed : SE2Pose.compose realLibrary (rolledAfterStep.flatten realAngles)
      ⟨⟨1, 2⟩, 1⟩ = goal := by
    calc SE2Pose.compose realLibrary (rolledAfterStep.flatten realAngles) ⟨⟨1, 2⟩, 1⟩
        = .compose realLibrary (rolledAfterStep.flatten realAngles)
            (.compose realLibrary ((rolledAfterStep.flatten realAngles).inverse realLibrary)
              goal) := congrArg _ relative.symm
      _ = .compose realLibrary .identity goal := by
        rw [← SE2Pose.compose_assoc realLibrary_isExact,
          SE2Pose.compose_inverse realLibrary_isExact]
      _ = goal := SE2Pose.identity_compose realLibrary_isExact goal
  have cos : realLibrary.cos 0 = 1 := Real.cos_zero
  have sin : realLibrary.sin 0 = 0 := Real.sin_zero
  have upright : SE2Pose.compose realLibrary ⟨⟨1, 0⟩, 0⟩ ⟨⟨1, 2⟩, 1⟩ = ⟨⟨2, 2⟩, 1⟩ := by
    norm_num [SE2Pose.compose, cos, sin]
  refine ⟨goal, commanded, ?_⟩
  rw [← composed, ← upright]
  exact flatten_rolledAfterStep.compose realLibrary_isExact (.refl _)

/-- One step ahead, a quarter turn to the left and one step ahead. -/
noncomputable def aheadAndLeft : List (SE2Pose ℝ) :=
  [⟨⟨1, 0⟩, Real.pi / (2 : ℕ)⟩, ⟨⟨1, 0⟩, 0⟩]

/-- The rolled body walks there, and there and back. -/
theorem bodyWalk_composes_rolled :
    (∃ t pose, Run (WalksTo realAngles ()) (standing rolledAfterStep) aheadAndLeft t ∧
      t.BodyAt realAngles pose ∧ pose.SameMotion realLibrary ⟨⟨2, 1⟩, Real.pi / 2⟩) ∧
    ∃ t pose, Run (WalksTo realAngles ()) (standing rolledAfterStep)
        (aheadAndLeft ++ SE2Pose.back realLibrary aheadAndLeft) t ∧
      t.BodyAt realAngles pose ∧ pose.SameMotion realLibrary ⟨⟨1, 0⟩, 0⟩ := by
  have stands := standing_bodyAt rolledAfterStep_isUnit
  constructor
  · obtain ⟨t, run⟩ := exists_walk rolledAfterStep_isUnit aheadAndLeft
    obtain ⟨pose, arrived, same⟩ := (bodyWalk_composes stands run).stands
    have flat := flatten_rolledAfterStep.walk realLibrary_isExact aheadAndLeft
    have cos : realLibrary.cos (Real.pi / 2) = 0 := Real.cos_pi_div_two
    have sin : realLibrary.sin (Real.pi / 2) = 1 := Real.sin_pi_div_two
    have there : SE2Pose.walk realLibrary ⟨⟨1, 0⟩, 0⟩ aheadAndLeft = ⟨⟨2, 1⟩, Real.pi / 2⟩ := by
      have still : realLibrary.cos 0 = 1 := Real.cos_zero
      have straight : realLibrary.sin 0 = 0 := Real.sin_zero
      norm_num [SE2Pose.walk, SE2Pose.compose, aheadAndLeft, cos, sin, still, straight]
    rw [← there]
    exact ⟨t, pose, run, arrived, same.trans flat⟩
  · obtain ⟨t, run⟩ := exists_walk rolledAfterStep_isUnit
      (aheadAndLeft ++ SE2Pose.back realLibrary aheadAndLeft)
    obtain ⟨pose, arrived, same⟩ := (bodyWalk_composes stands run).returns aheadAndLeft rfl
    exact ⟨t, pose, run, arrived, same.trans flatten_rolledAfterStep⟩

end Real

end SpotSdk.Api
