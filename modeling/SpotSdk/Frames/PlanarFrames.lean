import SpotSdk.Frames.FlatPoses
import SpotSdk.Frames.VelocityFrames

/-!
# Planar transforms between frames

The planar `get_a_tform_b` flattens the spatial pose between the closest frames, and
answers in a frame whose name is that of a gravity aligned one. Its answers compose and
invert, and planar velocities can be expressed in steps, between frames that are level
with each other.
-/

namespace SpotSdk.Api

variable {K : Type*}

def kVisionFrame : String := "vision"
def kOdomFrame : String := "odom"
def kBodyFrame : String := "body"
def kGravAlignedBodyFrame : String := "flat_body"

def isGravityAlignedFrameName (frameName : String) : Bool :=
  frameName = kGravAlignedBodyFrame ∨ frameName = kVisionFrame ∨ frameName = kOdomFrame

/-- `SE2StringToClosestSE3String`. -/
def se2StringToClosestSE3String (se2Frame : String) : String :=
  if se2Frame = kGravAlignedBodyFrame then kBodyFrame else se2Frame

section Formulas

variable [Field K] [LinearOrder K]

/-- `SafeFlatten`: the pose, or nothing when it returns false. -/
def safeFlatten (lib : AngleLibrary K) (inSE3Pose : SE3Pose K) (baseFrameName : String) :
    Option (SE2Pose K) :=
  if isGravityAlignedFrameName baseFrameName then some (inSE3Pose.flatten lib) else none

/-- `SafeInflate`: the pose, or nothing when it returns false. -/
def safeInflate (lib : AngleLibrary K) (inSE2Pose : SE2Pose K) (baseFrameName : String)
    (zHeight : K) : Option (SE3Pose K) :=
  if isGravityAlignedFrameName baseFrameName then
    some (inSE2Pose.inflate lib.toMathLibrary zHeight)
  else none

namespace FrameTreeSnapshot

/-- The planar `get_a_tform_b`: what it returns, and the output pose afterwards. Absent
when the spatial one is. -/
def getSE2ATformB (lib : AngleLibrary K) (snapshot : FrameTreeSnapshot K)
    (se2FrameA se2FrameB : String) (outATformB : SE2Pose K) : Option (Bool × SE2Pose K) :=
  match snapshot.getATformB (se2StringToClosestSE3String se2FrameA)
      (se2StringToClosestSE3String se2FrameB) with
  | none => none
  | some none => some (false, outATformB)
  | some (some se3ATformB) =>
      match safeFlatten lib se3ATformB se2FrameA with
      -- The output pose is cleared.
      | none => some (false, .identity)
      | some aTformB => some (true, aTformB)

/-- `CheckSE2_a_tform_b`. -/
def checkSE2ATformB (lib : AngleLibrary K) (snapshot : FrameTreeSnapshot K)
    (frameA frameB : String) : Option Bool :=
  (snapshot.getSE2ATformB lib frameA frameB .identity).map Prod.fst

/-- `ExpressVelocityInNewFrame` for an `SE2Velocity`: the velocity, or nothing when it
returns false. -/
def expressSE2VelocityInNewFrame (lib : AngleLibrary K) (snapshot : FrameTreeSnapshot K)
    (se2FrameB se2FrameC : String) (velOfAInB : SE2Velocity K) :
    Option (Option (SE2Velocity K)) :=
  match snapshot.getSE2ATformB lib se2FrameC se2FrameB .identity with
  | none => none
  | some (false, _) => some none
  | some (true, se2CTformB) =>
      some (some (velOfAInB.transform (se2CTformB.adjoint lib.toMathLibrary)))

end FrameTreeSnapshot

/-- Flattening in the same frame undoes `SafeInflate`. -/
theorem safeFlatten_of_safeInflate [IsStrictOrderedRing K] {lib : AngleLibrary K}
    (exact : lib.IsExact) {frame : String} {planar : SE2Pose K} {zHeight : K} {spatial : SE3Pose K}
    (inflated : safeInflate lib planar frame zHeight = some spatial) :
    ∃ flat, safeFlatten lib spatial frame = some flat ∧
      flat.SameMotion lib.toMathLibrary planar := by
  rw [safeInflate, Option.ite_none_right_eq_some] at inflated
  obtain ⟨aligned, whole⟩ := inflated
  obtain rfl := Option.some.inj whole
  exact ⟨_, if_pos aligned, SE3Pose.flatten_inflate exact planar zHeight⟩

end Formulas

namespace FrameTreeSnapshot

/-! ## Spatial transforms -/

section Spatial

variable {R : Type*} [CommRing R] {snapshot : FrameTreeSnapshot R} {a b c : String}
  {aTb bTc : SE3Pose R}

/-- The transform between two frames, by the ways to the root. -/
theorem getATformB_isUnit (units : snapshot.HasUnitRotations)
    (h : snapshot.getATformB a b = some (some aTb)) : aTb.rotation.IsUnit := by
  obtain ⟨valid, ha, hb, -⟩ := getATformB_eq_some_iff.mp h
  obtain ⟨r, climbs⟩ := exists_climb valid units
  obtain ⟨es, climbA, unitA⟩ := climbs a ha
  obtain ⟨fs, climbB, unitB⟩ := climbs b hb
  rw [getATformB_of_climbs valid climbA climbB] at h
  obtain rfl := Option.some.inj (Option.some.inj h)
  exact unitA.conj.mul unitB

/-- Exactly the frames of a valid snapshot are related. -/
theorem exists_getATformB_iff : (∃ pose, snapshot.getATformB a b = some (some pose)) ↔
    snapshot.validateFrameTreeSnapshot = some .valid ∧ a ∈ snapshot ∧ b ∈ snapshot := by
  constructor
  · rintro ⟨pose, found⟩
    obtain ⟨valid, ha, hb, -⟩ := getATformB_eq_some_iff.mp found
    exact ⟨valid, ha, hb⟩
  · rintro ⟨valid, ha, hb⟩
    obtain ⟨-, -, r, tree⟩ := validateFrameTreeSnapshot_valid_iff.mp valid
    obtain ⟨es, climbA⟩ := tree a (parentOf_isSome.mpr ha)
    obtain ⟨fs, climbB⟩ := tree b (parentOf_isSome.mpr hb)
    exact ⟨_, getATformB_of_climbs valid climbA climbB⟩

theorem getATformB_of_not
    (h : ¬ (snapshot.validateFrameTreeSnapshot = some .valid ∧ a ∈ snapshot ∧ b ∈ snapshot)) :
    snapshot.getATformB a b = some none := by
  by_cases valid : snapshot.validateFrameTreeSnapshot = some .valid
  · exact getATformB_refused valid fun inside => h ⟨valid, inside⟩
  · obtain ⟨status, check⟩ := Option.isSome_iff_exists.mp snapshot.validateFrameTreeSnapshot_isSome
    have refused : status ≠ .valid := by
      rintro rfl
      exact valid check
    rw [getATformB, check]
    simp only [if_pos refused]

end Spatial

/-! ## Planar transforms -/

section Planar

variable [Field K] [LinearOrder K] {lib : AngleLibrary K} {snapshot : FrameTreeSnapshot K}
  {a b c : String} {aTb bTc out : SE2Pose K}

/-- A planar transform is returned exactly in a frame of a gravity aligned name, and it is
the flattened one between the closest frames. -/
theorem getSE2ATformB_eq_true_iff : snapshot.getSE2ATformB lib a b out = some (true, aTb) ↔
    isGravityAlignedFrameName a = true ∧
      ∃ pose, snapshot.getATformB (se2StringToClosestSE3String a)
        (se2StringToClosestSE3String b) = some (some pose) ∧ pose.flatten lib = aTb := by
  rw [getSE2ATformB]
  cases spatial : snapshot.getATformB (se2StringToClosestSE3String a)
      (se2StringToClosestSE3String b) with
  | none => simp
  | some found =>
      cases found with
      | none => simp
      | some pose =>
          by_cases aligned : isGravityAlignedFrameName a = true
          · simp [safeFlatten, aligned]
          · simp [safeFlatten, aligned]

/-- What `CheckSE2_a_tform_b` checks. -/
theorem checkSE2ATformB_iff : snapshot.checkSE2ATformB lib a b = some true ↔
    isGravityAlignedFrameName a = true ∧
      snapshot.validateFrameTreeSnapshot = some .valid ∧
        se2StringToClosestSE3String a ∈ snapshot ∧ se2StringToClosestSE3String b ∈ snapshot := by
  have related : snapshot.checkSE2ATformB lib a b = some true ↔
      ∃ aTb, snapshot.getSE2ATformB lib a b .identity = some (true, aTb) := by
    rw [checkSE2ATformB, Option.map_eq_some_iff]
    constructor
    · rintro ⟨⟨found, aTb⟩, answer, rfl⟩
      exact ⟨aTb, answer⟩
    · rintro ⟨aTb, answer⟩
      exact ⟨_, answer, rfl⟩
  rw [related, ← exists_getATformB_iff]
  constructor
  · rintro ⟨aTb, answer⟩
    obtain ⟨aligned, pose, spatial, -⟩ := getSE2ATformB_eq_true_iff.mp answer
    exact ⟨aligned, pose, spatial⟩
  · rintro ⟨aligned, pose, spatial⟩
    exact ⟨_, getSE2ATformB_eq_true_iff.mpr ⟨aligned, pose, spatial, rfl⟩⟩

/-- Frame `b` is turned in frame `a` about the vertical axis alone. -/
def Level (snapshot : FrameTreeSnapshot K) (a b : String) : Prop :=
  ∀ pose, snapshot.getATformB (se2StringToClosestSE3String a)
    (se2StringToClosestSE3String b) = some (some pose) → pose.rotation.YawOnly

/-- Frame `b` is not upside down in frame `a`. -/
def UprightIn (snapshot : FrameTreeSnapshot K) (a b : String) : Prop :=
  ∀ pose, snapshot.getATformB (se2StringToClosestSE3String a)
    (se2StringToClosestSE3String b) = some (some pose) → pose.rotation.Upright

/-- What planar transforms promise between frames that are level with each other. -/
structure RelatesPlanarFrames (lib : AngleLibrary K) (snapshot : FrameTreeSnapshot K) : Prop where
  composes : ∀ a b c aTb bTc out, snapshot.Level a b → snapshot.UprightIn b c →
    snapshot.getSE2ATformB lib a b out = some (true, aTb) →
    snapshot.getSE2ATformB lib b c out = some (true, bTc) →
    ∃ aTc, snapshot.getSE2ATformB lib a c out = some (true, aTc) ∧
      aTc.SameMotion lib.toMathLibrary (.compose lib.toMathLibrary aTb bTc)
  inverse : ∀ a b aTb out, snapshot.Level a b → isGravityAlignedFrameName b = true →
    snapshot.getSE2ATformB lib a b out = some (true, aTb) →
    ∃ bTa, snapshot.getSE2ATformB lib b a out = some (true, bTa) ∧
      bTa.SameMotion lib.toMathLibrary (aTb.inverse lib.toMathLibrary)
  velocities : ∀ a b c velInC velInB, snapshot.Level a b → snapshot.UprightIn b c →
    isGravityAlignedFrameName a = true →
    snapshot.expressSE2VelocityInNewFrame lib c b velInC = some (some velInB) →
    (∃ pose, snapshot.getATformB (se2StringToClosestSE3String a)
      (se2StringToClosestSE3String b) = some (some pose)) →
    snapshot.expressSE2VelocityInNewFrame lib c a velInC =
      snapshot.expressSE2VelocityInNewFrame lib b a velInB

theorem expressSE2Velocity_of_getSE2ATformB {v : SE2Velocity K}
    (h : snapshot.getSE2ATformB lib a b .identity = some (true, aTb)) :
    snapshot.expressSE2VelocityInNewFrame lib b a v =
      some (some (v.transform (aTb.adjoint lib.toMathLibrary))) := by
  rw [expressSE2VelocityInNewFrame, h]

theorem exists_of_expressSE2Velocity {v w : SE2Velocity K}
    (h : snapshot.expressSE2VelocityInNewFrame lib b a v = some (some w)) :
    ∃ aTb, snapshot.getSE2ATformB lib a b .identity = some (true, aTb) ∧
      w = v.transform (aTb.adjoint lib.toMathLibrary) := by
  rw [expressSE2VelocityInNewFrame] at h
  split at h
  · cases h
  · cases h
  · next aTb planar => exact ⟨aTb, planar, (Option.some.inj (Option.some.inj h)).symm⟩

variable [IsStrictOrderedRing K]

theorem getSE2ATformB_comp (exact : lib.IsExact) (units : snapshot.HasUnitRotations)
    (level : snapshot.Level a b) (upright : snapshot.UprightIn b c)
    (hab : snapshot.getSE2ATformB lib a b out = some (true, aTb))
    (hbc : snapshot.getSE2ATformB lib b c out = some (true, bTc)) :
    ∃ aTc, snapshot.getSE2ATformB lib a c out = some (true, aTc) ∧
      aTc.SameMotion lib.toMathLibrary (.compose lib.toMathLibrary aTb bTc) := by
  obtain ⟨alignedA, poseAB, spatialAB, rfl⟩ := getSE2ATformB_eq_true_iff.mp hab
  obtain ⟨-, poseBC, spatialBC, rfl⟩ := getSE2ATformB_eq_true_iff.mp hbc
  obtain ⟨valid, -⟩ := getATformB_eq_some_iff.mp spatialAB
  have spatialAC := getATformB_comp valid units spatialAB spatialBC
  have unit := getATformB_isUnit units spatialAB
  refine ⟨_, getSE2ATformB_eq_true_iff.mpr ⟨alignedA, _, spatialAC, rfl⟩, ?_⟩
  exact (SE3Pose.flatten_mul_same_iff exact unit).mpr (level _ spatialAB) poseBC
    (getATformB_isUnit units spatialBC) (upright _ spatialBC)

theorem getSE2ATformB_inv (exact : lib.IsExact) (units : snapshot.HasUnitRotations)
    (level : snapshot.Level a b) (alignedB : isGravityAlignedFrameName b = true)
    (hab : snapshot.getSE2ATformB lib a b out = some (true, aTb)) :
    ∃ bTa, snapshot.getSE2ATformB lib b a out = some (true, bTa) ∧
      bTa.SameMotion lib.toMathLibrary (aTb.inverse lib.toMathLibrary) := by
  obtain ⟨-, pose, spatial, rfl⟩ := getSE2ATformB_eq_true_iff.mp hab
  have unit := getATformB_isUnit units spatial
  have whole := SE3Pose.inflate_flatten_of_yawOnly exact unit (level _ spatial)
  have inverse := SE2Pose.inflate_inverse exact.toIsExact (pose.flatten lib) pose.position.z
  rw [whole] at inverse
  obtain ⟨valid, -⟩ := getATformB_eq_some_iff.mp spatial
  have back := getATformB_inv valid units spatial
  refine ⟨_, getSE2ATformB_eq_true_iff.mpr ⟨alignedB, _, back, rfl⟩, ?_⟩
  rw [← inverse]
  exact SE3Pose.flatten_inflate exact _ _

theorem relatesPlanarFrames_of_isExact (exact : lib.IsExact) (units : snapshot.HasUnitRotations) :
    snapshot.RelatesPlanarFrames lib := by
  constructor
  case composes =>
    intro a b c aTb bTc out level upright hab hbc
    exact getSE2ATformB_comp exact units level upright hab hbc
  case inverse =>
    intro a b aTb out level alignedB hab
    exact getSE2ATformB_inv exact units level alignedB hab
  case velocities =>
    intro a b c velInC velInB level upright alignedA expressed spatial
    obtain ⟨bTc, hbc, rfl⟩ := exists_of_expressSE2Velocity expressed
    obtain ⟨pose, spatialAB⟩ := spatial
    have hab : snapshot.getSE2ATformB lib a b .identity = some (true, pose.flatten lib) :=
      getSE2ATformB_eq_true_iff.mpr ⟨alignedA, pose, spatialAB, rfl⟩
    obtain ⟨aTc, hac, same⟩ := getSE2ATformB_comp exact units level upright hab hbc
    rw [expressSE2Velocity_of_getSE2ATformB hac, expressSE2Velocity_of_getSE2ATformB hab,
      SE2Velocity.transform_transform, ← SE2Pose.adjoint_compose exact.toIsExact, same.adjoint]

end Planar

/-! ## Real arithmetic -/

/-- In real arithmetic planar transforms relate the frames of every snapshot whose
rotations are units. -/
theorem relatesPlanarFrames {snapshot : FrameTreeSnapshot ℝ} (units : snapshot.HasUnitRotations) :
    snapshot.RelatesPlanarFrames realAngles :=
  relatesPlanarFrames_of_isExact realAngles_isExact units

theorem hasUnitRotations_insert {R : Type*} [CommRing R] {snapshot : FrameTreeSnapshot R}
    (units : snapshot.HasUnitRotations) (child : String) {edge : ParentEdge R}
    (unit : edge.parentFrameName ≠ "" → edge.tform.rotation.IsUnit) :
    HasUnitRotations (AList.insert child edge snapshot) := by
  intro frame edge' lookup named
  by_cases same : frame = child
  · subst same
    rw [AList.lookup_insert] at lookup
    obtain rfl := Option.some.inj lookup
    exact unit named
  · rw [AList.lookup_insert_ne same] at lookup
    exact units frame edge' lookup named

/-- A body that faces backwards in an odometry frame that is turned to the left. -/
noncomputable def backwardBody : FrameTreeSnapshot ℝ :=
  AList.insert "body" ⟨"odom", some (SE2Pose.inflate realLibrary ⟨⟨1, 0⟩, Real.pi⟩ 1)⟩
    (AList.insert "odom" ⟨"vision", some (SE2Pose.inflate realLibrary ⟨⟨0, 1⟩, Real.pi / (2 : ℕ)⟩ 0)⟩
      (AList.insert "vision" {} ∅))

theorem backwardBody_hasUnitRotations : backwardBody.HasUnitRotations := by
  refine hasUnitRotations_insert (hasUnitRotations_insert (hasUnitRotations_insert ?_ _ ?_) _ ?_)
    _ ?_
  · intro frame edge lookup
    cases lookup
  · exact fun named => absurd rfl named
  · exact fun _ => Quaternion.fromYaw_isUnit realLibrary_isExact _
  · exact fun _ => Quaternion.fromYaw_isUnit realLibrary_isExact _

/-- In the vision frame the body is two metres to the left, and turned three quarters. -/
theorem relatesPlanarFrames_backwardBody :
    ∃ pose, backwardBody.getSE2ATformB realAngles kVisionFrame kGravAlignedBodyFrame .identity =
        some (true, pose) ∧
      pose.SameMotion realLibrary ⟨⟨0, 2⟩, Real.pi / 2 + Real.pi⟩ := by
  have units := backwardBody_hasUnitRotations
  have valid : backwardBody.validateFrameTreeSnapshot = some .valid := rfl
  have odom : backwardBody.getATformB "vision" "odom" = some (some
      (SE2Pose.inflate realLibrary ⟨⟨0, 1⟩, Real.pi / (2 : ℕ)⟩ 0)) :=
    getATformB_of_edge valid units (a := "odom") rfl (by decide)
  have body : backwardBody.getATformB "odom" "body" = some (some
      (SE2Pose.inflate realLibrary ⟨⟨1, 0⟩, Real.pi⟩ 1)) :=
    getATformB_of_edge valid units (a := "body") rfl (by decide)
  have level : backwardBody.Level kVisionFrame kOdomFrame := by
    intro pose found
    obtain rfl := Option.some.inj (Option.some.inj (odom.symm.trans found))
    exact ⟨rfl, rfl⟩
  have upright : backwardBody.UprightIn kOdomFrame kGravAlignedBodyFrame := by
    intro pose found
    obtain rfl := Option.some.inj (Option.some.inj (body.symm.trans found))
    have round := realLibrary_isExact.cos_mul_self_add (Real.pi / (2 : ℕ))
    exact round.trans_ne one_ne_zero
  obtain ⟨pose, planar, same⟩ := (relatesPlanarFrames units).composes kVisionFrame kOdomFrame
    kGravAlignedBodyFrame _ _ .identity level upright
    (getSE2ATformB_eq_true_iff.mpr ⟨by decide, _, odom, rfl⟩)
    (getSE2ATformB_eq_true_iff.mpr ⟨by decide, _, body, rfl⟩)
  have composed := same.trans (SE2Pose.SameMotion.compose realLibrary_isExact
    (SE3Pose.flatten_inflate realAngles_isExact _ _)
    (SE3Pose.flatten_inflate realAngles_isExact _ _))
  rw [Nat.cast_ofNat] at composed
  have cos : realAngles.cos (Real.pi / 2) = 0 := Real.cos_pi_div_two
  have sin : realAngles.sin (Real.pi / 2) = 1 := Real.sin_pi_div_two
  refine ⟨pose, planar, composed.trans ⟨?_, rfl, rfl⟩⟩
  norm_num [SE2Pose.compose, cos, sin]

end FrameTreeSnapshot

end SpotSdk.Api
