import SpotSdk.Frames.FlatPoses

/-!
# Roll, pitch and yaw

`ToRoll` and `ToPitch` are the angles of the decomposition of a rotation into a roll, a
pitch and a yaw. Its yaw is the angle of `FlattenToX`. The angle of `ToYaw`, which `Flatten`
takes, belongs to the closest turn about the vertical axis, and is the yaw only where the
rotation has no roll or no pitch.
-/

namespace SpotSdk.Api

open SpotSdk.Api.Quaternion

/-- The functions of `AngleLibrary` with those that `ToPitch` calls. -/
structure PitchLibrary (K : Type*) extends AngleLibrary K where
  asin : K → K
  pi : K

section Formulas

variable {K : Type*} [Field K]

/-- `FromRoll`. -/
def Quaternion.fromRoll (lib : MathLibrary K) (angle : K) : Quaternion K :=
  ⟨lib.cos (angle / (2 : ℕ)), lib.sin (angle / (2 : ℕ)), 0, 0⟩

/-- `FromPitch`. -/
def Quaternion.fromPitch (lib : MathLibrary K) (angle : K) : Quaternion K :=
  ⟨lib.cos (angle / (2 : ℕ)), 0, lib.sin (angle / (2 : ℕ)), 0⟩

/-- The rotated first axis of `FlattenToX`. -/
def SE3Pose.flattenToX (lib : AngleLibrary K) (a : SE3Pose K) : SE2Pose K :=
  let xAxis : Vec3 K := a.rotation * (⟨1, 0, 0⟩ : Vec3 K)
  ⟨⟨a.position.x, a.position.y⟩, lib.atan2 xAxis.y xAxis.x⟩

variable [LinearOrder K]

/-- `ToRoll`. -/
def Quaternion.toRoll (lib : AngleLibrary K) (q : Quaternion K) : K :=
  if q.w * q.w + q.x * q.x + q.y * q.y + q.z * q.z = 0 then 0
  else
    let t0 := (2 : ℕ) * (q.w * q.x + q.y * q.z)
    let t1 := 1 - (2 : ℕ) * (q.x * q.x + q.y * q.y)
    lib.atan2 t0 t1

/-- `ToPitch`. -/
def Quaternion.toPitch (lib : PitchLibrary K) (q : Quaternion K) : K :=
  if q.w * q.w + q.x * q.x + q.y * q.y + q.z * q.z = 0 then 0
  else
    let t2 := (2 : ℕ) * (q.w * q.y - q.z * q.x)
    if t2 < -1 then -lib.pi / (2 : ℕ)
    else if t2 > 1 then lib.pi / (2 : ℕ)
    else lib.asin t2

end Formulas

/-- The real functions, with the inverse sine. -/
noncomputable def realPitches : PitchLibrary ℝ where
  toAngleLibrary := realAngles
  asin := Real.arcsin
  pi := Real.pi

variable {q : Quaternion ℝ} {a : SE3Pose ℝ} {s t : ℝ}

/-- The rotation of a roll and a pitch. -/
noncomputable def tilt (pitch roll : ℝ) : Quaternion ℝ :=
  .fromPitch realLibrary pitch * .fromRoll realLibrary roll

theorem tilt_eq (pitch roll : ℝ) : tilt pitch roll =
    ⟨Real.cos (pitch / 2) * Real.cos (roll / 2), Real.cos (pitch / 2) * Real.sin (roll / 2),
      Real.sin (pitch / 2) * Real.cos (roll / 2), -(Real.sin (pitch / 2) * Real.sin (roll / 2))⟩ := by
  rw [tilt, fromPitch, fromRoll, Nat.cast_ofNat]
  ext <;> simp [realLibrary]

theorem tilt_isUnit (pitch roll : ℝ) : (tilt pitch roll).IsUnit := by
  rw [tilt_eq, Quaternion.IsUnit]
  linear_combination (Real.sin (roll / 2) ^ 2 + Real.cos (roll / 2) ^ 2) *
    Real.sin_sq_add_cos_sq (pitch / 2) + Real.sin_sq_add_cos_sq (roll / 2)

/-! ## The vertical axis -/

/-- The vertical axis as a rotation sees it. -/
def seenVertical (q : Quaternion ℝ) : Vec3 ℝ := ~~~q * (⟨0, 0, 1⟩ : Vec3 ℝ)

theorem seenVertical_eq (unit : q.IsUnit) : seenVertical q =
    ⟨-(2 * (q.w * q.y - q.z * q.x)), 2 * (q.w * q.x + q.y * q.z),
      1 - 2 * (q.x * q.x + q.y * q.y)⟩ := by
  rw [Quaternion.IsUnit] at unit
  ext
  · simp [seenVertical, rotate_x, Quaternion.pure]
    ring
  · simp [seenVertical, rotate_y, Quaternion.pure]
    ring
  · simp [seenVertical, rotate_z, Quaternion.pure]
    linear_combination unit

theorem seenVertical_tilt (pitch roll : ℝ) : seenVertical (tilt pitch roll) =
    ⟨-Real.sin pitch, Real.cos pitch * Real.sin roll, Real.cos pitch * Real.cos roll⟩ := by
  have sinPitch : Real.sin pitch = _ := realLibrary_isExact.sin_of_half pitch
  have cosPitch : Real.cos pitch = _ := realLibrary_isExact.cos_of_half pitch
  have sinRoll : Real.sin roll = _ := realLibrary_isExact.sin_of_half roll
  have cosRoll : Real.cos roll = _ := realLibrary_isExact.cos_of_half roll
  have onePitch := Real.sin_sq_add_cos_sq (pitch / 2)
  have oneRoll := Real.sin_sq_add_cos_sq (roll / 2)
  rw [seenVertical_eq (tilt_isUnit pitch roll), tilt_eq, sinPitch, cosPitch, sinRoll, cosRoll]
  dsimp only [realLibrary]
  ext
  · dsimp only
    linear_combination -2 * Real.sin (pitch / 2) * Real.cos (pitch / 2) * oneRoll
  · dsimp only
    ring
  · dsimp only
    linear_combination -(Real.sin (roll / 2) ^ 2 + Real.cos (roll / 2) ^ 2) * onePitch - oneRoll

/-- Two unit quaternions that see the vertical axis alike differ by a turn about it. -/
theorem eq_fromYaw_mul {p : Quaternion ℝ} (unit : q.IsUnit) (unitP : p.IsUnit)
    (same : seenVertical q = seenVertical p) : ∃ yaw, q = .fromYaw realLibrary yaw * p := by
  have unitR : (q * ~~~p).IsUnit := unit.mul unitP.conj
  have vertical : (q * ~~~p) * (⟨0, 0, 1⟩ : Vec3 ℝ) = ⟨0, 0, 1⟩ := by
    have seen : q * (~~~q * (⟨0, 0, 1⟩ : Vec3 ℝ)) = ⟨0, 0, 1⟩ := by
      have cancel := conj_mul_cancel unit.conj
      rw [conj_conj] at cancel
      rw [← Quaternion.mul_rotate, cancel, one_rotate]
    rw [Quaternion.mul_rotate]
    rw [seenVertical, seenVertical] at same
    rw [← same, seen]
  have flat : (q * ~~~p).YawOnly := by
    have z := congrArg Vec3.z vertical
    generalize q * ~~~p = r at unitR z
    rw [Quaternion.IsUnit] at unitR
    simp [rotate_z, Quaternion.pure] at z
    have none : r.x * r.x + r.y * r.y = 0 := by linear_combination (unitR - z) / 2
    exact mul_self_add_mul_self_eq_zero.mp none
  refine ⟨(q * ~~~p).toYaw realAngles, ?_⟩
  have turn : Quaternion.fromYaw realLibrary ((q * ~~~p).toYaw realAngles) = q * ~~~p :=
    (fromYaw_toYaw realAngles_isExact unitR).trans
      (closestYawOnly_eq_self realAngles_isExact unitR flat)
  rw [turn, mul_assoc, conj_mul_cancel unitP, mul_one]

/-! ## The angles -/

theorem toPitch_eq (unit : q.IsUnit) (free : |2 * (q.w * q.y - q.z * q.x)| < 1) :
    q.toPitch realPitches = Real.arcsin (2 * (q.w * q.y - q.z * q.x)) := by
  obtain ⟨low, high⟩ := abs_lt.mp free
  have one : q.w * q.w + q.x * q.x + q.y * q.y + q.z * q.z = 1 := unit
  rw [toPitch, if_neg (one.trans_ne one_ne_zero), Nat.cast_ofNat]
  dsimp only
  rw [if_neg (not_lt.mpr low.le), if_neg (not_lt.mpr high.le)]
  rfl

theorem toRoll_eq (unit : q.IsUnit) : q.toRoll realAngles =
    Complex.arg ⟨1 - 2 * (q.x * q.x + q.y * q.y), 2 * (q.w * q.x + q.y * q.z)⟩ := by
  have one : q.w * q.w + q.x * q.x + q.y * q.y + q.z * q.z = 1 := unit
  rw [toRoll, if_neg (one.trans_ne one_ne_zero), Nat.cast_ofNat]
  rfl

/-- Away from a vertical first axis the pitch and the roll are those of the vertical axis. -/
theorem seenVertical_angles (unit : q.IsUnit) (free : |2 * (q.w * q.y - q.z * q.x)| < 1) :
    seenVertical q = seenVertical (tilt (q.toPitch realPitches) (q.toRoll realAngles)) := by
  obtain ⟨low, high⟩ := abs_lt.mp free
  have one : q.w * q.w + q.x * q.x + q.y * q.y + q.z * q.z = 1 := unit
  have length : √(1 - (2 * (q.w * q.y - q.z * q.x)) ^ 2) =
      ‖(⟨1 - 2 * (q.x * q.x + q.y * q.y), 2 * (q.w * q.x + q.y * q.z)⟩ : ℂ)‖ := by
    rw [Complex.norm_def, Complex.normSq_mk]
    congr 1
    linear_combination -(4 * (q.x * q.x + q.y * q.y)) * one
  rw [seenVertical_eq unit, seenVertical_tilt, toPitch_eq unit free, toRoll_eq unit,
    Real.sin_arcsin low.le high.le, Real.cos_arcsin, length, Complex.norm_mul_sin_arg,
    Complex.norm_mul_cos_arg]

theorem cos_toPitch_pos (unit : q.IsUnit) (free : |2 * (q.w * q.y - q.z * q.x)| < 1) :
    0 < Real.cos (q.toPitch realPitches) := by
  rw [toPitch_eq unit free, Real.cos_arcsin, Real.sqrt_pos, sub_pos, sq_lt_one_iff_abs_lt_one]
  exact free

/-- The vertical part of a tilt vanishes without a pitch or without a roll. -/
theorem tilt_z_eq_zero_iff (unit : q.IsUnit) (free : |2 * (q.w * q.y - q.z * q.x)| < 1) :
    (tilt (q.toPitch realPitches) (q.toRoll realAngles)).z = 0 ↔
      q.toRoll realAngles = 0 ∨ q.toPitch realPitches = 0 := by
  have pi := Real.pi_pos
  have pitchLow := Real.neg_pi_div_two_le_arcsin (2 * (q.w * q.y - q.z * q.x))
  have pitchHigh := Real.arcsin_le_pi_div_two (2 * (q.w * q.y - q.z * q.x))
  rw [← toPitch_eq unit free] at pitchLow pitchHigh
  have rollLow := Complex.neg_pi_lt_arg
    ⟨1 - 2 * (q.x * q.x + q.y * q.y), 2 * (q.w * q.x + q.y * q.z)⟩
  have rollHigh := Complex.arg_le_pi
    ⟨1 - 2 * (q.x * q.x + q.y * q.y), 2 * (q.w * q.x + q.y * q.z)⟩
  rw [← toRoll_eq unit] at rollLow rollHigh
  rw [tilt_eq, neg_eq_zero, mul_eq_zero, Real.sin_eq_zero_iff_of_lt_of_lt (by linarith)
    (by linarith), Real.sin_eq_zero_iff_of_lt_of_lt (by linarith) (by linarith),
    div_eq_zero_iff, div_eq_zero_iff]
  simp [or_comm]

/-! ## One rotation, two quaternions -/

theorem mul_negated (p q : Quaternion ℝ) : p * -q = -(p * q) := by
  ext <;> simp only [mul_w, mul_x, mul_y, mul_z, Quaternion.neg_def] <;> ring

theorem negated_mul (p q : Quaternion ℝ) : -p * q = -(p * q) := by
  ext <;> simp only [mul_w, mul_x, mul_y, mul_z, Quaternion.neg_def] <;> ring

/-- The quaternions of one rotation. -/
def SameRotation (p q : Quaternion ℝ) : Prop := p = q ∨ p = -q

namespace SameRotation

variable {p r : Quaternion ℝ}

theorem mul_left (same : SameRotation p q) (r : Quaternion ℝ) : SameRotation (r * p) (r * q) := by
  rcases same with rfl | rfl
  · exact .inl rfl
  · exact .inr (mul_negated r q)

theorem mul_right (same : SameRotation p q) (r : Quaternion ℝ) :
    SameRotation (p * r) (q * r) := by
  rcases same with rfl | rfl
  · exact .inl rfl
  · exact .inr (negated_mul q r)

/-- A unit quaternion on the left can be taken away. -/
theorem of_mul_left (unit : r.IsUnit) (same : SameRotation (r * p) (r * q)) :
    SameRotation p q := by
  have taken := same.mul_left (~~~r)
  rwa [← mul_assoc, ← mul_assoc, conj_mul_cancel unit, one_mul, one_mul] at taken

theorem of_mul_right (unit : r.IsUnit) (same : SameRotation (p * r) (q * r)) :
    SameRotation p q := by
  have cancel := conj_mul_cancel unit.conj
  rw [conj_conj] at cancel
  have taken := same.mul_right (~~~r)
  rwa [mul_assoc, mul_assoc, cancel, mul_one, mul_one] at taken

end SameRotation

/-- Angles with the same sine and cosine are turns to one rotation. -/
theorem fromYaw_same (cos : Real.cos s = Real.cos t) (sin : Real.sin s = Real.sin t) :
    SameRotation (.fromYaw realLibrary s) (.fromYaw realLibrary t) := by
  have cosS : Real.cos s = _ := realLibrary_isExact.cos_of_half s
  have cosT : Real.cos t = _ := realLibrary_isExact.cos_of_half t
  have sinS : Real.sin s = _ := realLibrary_isExact.sin_of_half s
  have sinT : Real.sin t = _ := realLibrary_isExact.sin_of_half t
  rw [cosS, cosT] at cos
  rw [sinS, sinT] at sin
  have square : (⟨Real.cos (s / 2), Real.sin (s / 2)⟩ : ℂ) ^ 2 =
      ⟨Real.cos (t / 2), Real.sin (t / 2)⟩ ^ 2 := by
    rw [sq, sq]
    apply Complex.ext
    · exact cos
    · change Real.cos (s / 2) * Real.sin (s / 2) + Real.sin (s / 2) * Real.cos (s / 2) =
        Real.cos (t / 2) * Real.sin (t / 2) + Real.sin (t / 2) * Real.cos (t / 2)
      dsimp only [realLibrary] at sin
      linear_combination sin
  rw [SameRotation, fromYaw_eq, fromYaw_eq]
  rcases sq_eq_sq_iff_eq_or_eq_neg.mp square with same | negated
  · left
    obtain ⟨re, im⟩ := Complex.ext_iff.mp same
    have cos : realLibrary.cos (s / 2) = realLibrary.cos (t / 2) := re
    have sin : realLibrary.sin (s / 2) = realLibrary.sin (t / 2) := im
    rw [cos, sin]
  · right
    obtain ⟨re, im⟩ := Complex.ext_iff.mp negated
    have cos : realLibrary.cos (s / 2) = -realLibrary.cos (t / 2) := re
    have sin : realLibrary.sin (s / 2) = -realLibrary.sin (t / 2) := im
    rw [cos, sin]
    ext
    · rfl
    · exact neg_zero.symm
    · exact neg_zero.symm
    · rfl

/-! ## The two yaws -/

/-- A rotation rebuilt from a yaw, a pitch and a roll. -/
noncomputable def fromEuler (yaw pitch roll : ℝ) : Quaternion ℝ :=
  .fromYaw realLibrary yaw * (.fromPitch realLibrary pitch * .fromRoll realLibrary roll)

/-- What the angles of a pose tell of its rotation. -/
structure EulerAngles (a : SE3Pose ℝ) : Prop where
  /-- With the angle of `FlattenToX` they rebuild it. -/
  rebuilt : SameRotation
    (fromEuler (a.flattenToX realAngles).angle (a.rotation.toPitch realPitches)
      (a.rotation.toRoll realAngles)) a.rotation
  /-- With the angle of `Flatten` they do so without a pitch or without a roll alone. -/
  closest_iff : a.rotation.Upright →
    (SameRotation
      (fromEuler (a.flatten realAngles).angle (a.rotation.toPitch realPitches)
        (a.rotation.toRoll realAngles)) a.rotation ↔
      a.rotation.toRoll realAngles = 0 ∨ a.rotation.toPitch realPitches = 0)

/-- The first axis of a turned tilt points where the turn takes it. -/
theorem firstAxis_turned (yaw pitch roll : ℝ) :
    (Quaternion.fromYaw realLibrary yaw * tilt pitch roll) * (⟨1, 0, 0⟩ : Vec3 ℝ) =
      ⟨Real.cos yaw * Real.cos pitch, Real.sin yaw * Real.cos pitch, -Real.sin pitch⟩ := by
  have sinPitch : Real.sin pitch = _ := realLibrary_isExact.sin_of_half pitch
  have cosPitch : Real.cos pitch = _ := realLibrary_isExact.cos_of_half pitch
  have oneRoll := Real.sin_sq_add_cos_sq (roll / 2)
  have tilted : tilt pitch roll * (⟨1, 0, 0⟩ : Vec3 ℝ) =
      ⟨Real.cos pitch, 0, -Real.sin pitch⟩ := by
    rw [tilt_eq, sinPitch, cosPitch]
    dsimp only [realLibrary]
    ext
    · simp [rotate_x, Quaternion.pure]
      linear_combination (Real.cos (pitch / 2) ^ 2 - Real.sin (pitch / 2) ^ 2) * oneRoll
    · simp [rotate_y, Quaternion.pure]
      ring
    · simp [rotate_z, Quaternion.pure]
      linear_combination -2 * Real.sin (pitch / 2) * Real.cos (pitch / 2) * oneRoll
  rw [Quaternion.mul_rotate, tilted, fromYaw_rotate realLibrary_isExact]
  dsimp only [realLibrary]
  rw [mul_zero, mul_zero, sub_zero, add_zero]

/-- The angle of `FlattenToX` is the yaw. -/
theorem flattenToX_same {yaw pitch roll : ℝ} (forward : 0 < Real.cos pitch)
    (turned : a.rotation = .fromYaw realLibrary yaw * tilt pitch roll) :
    SameRotation (.fromYaw realLibrary (a.flattenToX realAngles).angle)
      (.fromYaw realLibrary yaw) := by
  have one := Real.sin_sq_add_cos_sq yaw
  have angle : (a.flattenToX realAngles).angle =
      realAngles.atan2 (Real.sin yaw * Real.cos pitch) (Real.cos yaw * Real.cos pitch) := by
    rw [SE3Pose.flattenToX, turned, firstAxis_turned]
  have square : Real.cos yaw * Real.cos pitch * (Real.cos yaw * Real.cos pitch) +
      Real.sin yaw * Real.cos pitch * (Real.sin yaw * Real.cos pitch) =
        Real.cos pitch * Real.cos pitch := by
    linear_combination Real.cos pitch ^ 2 * one
  have nonzero := square.trans_ne (mul_pos forward forward).ne'
  have length : realAngles.sqrt (Real.cos pitch * Real.cos pitch) = Real.cos pitch :=
    Real.sqrt_mul_self forward.le
  have cos := realAngles_isExact.cos_atan2 _ _ nonzero
  have sin := realAngles_isExact.sin_atan2 _ _ nonzero
  rw [square, length, mul_div_cancel_right₀ _ forward.ne', ← angle] at cos sin
  exact fromYaw_same cos sin

/-- The closest turn of a tilt is none exactly where its vertical part vanishes. -/
theorem closestYawOnly_same_one_iff (upright : q.Upright) :
    SameRotation (q.closestYawOnly realLibrary) 1 ↔ q.z = 0 := by
  have mag := (mag_pos_iff realAngles_isExact).mpr upright
  have closest : q.closestYawOnly realLibrary = _ :=
    closestYawOnly_of_upright realAngles_isExact upright
  rw [closest]
  generalize length : realAngles.sqrt (q.w * q.w + q.z * q.z) = r at mag
  constructor
  · intro same
    have z : q.z / r = 0 := by
      rcases same with one | negated
      · exact congrArg Quaternion.z one
      · exact (congrArg Quaternion.z negated).trans neg_zero
    exact (div_eq_zero_iff.mp z).resolve_right mag.ne'
  · intro z
    have square : r * r = q.w * q.w := by
      rw [← length, mag_mul_self realAngles_isExact, z, mul_zero, add_zero]
    rw [z, zero_div]
    rcases mul_self_eq_mul_self_iff.mp square.symm with same | negated
    · left
      rw [same, div_self mag.ne']
      rfl
    · right
      rw [negated, neg_div, div_self mag.ne']
      ext
      · rfl
      · exact neg_zero.symm
      · exact neg_zero.symm
      · exact neg_zero.symm

/-- The angles of a pose whose first axis is not vertical. -/
theorem eulerAngles_of_isUnit (unit : a.rotation.IsUnit)
    (free : |2 * (a.rotation.w * a.rotation.y - a.rotation.z * a.rotation.x)| < 1) :
    EulerAngles a := by
  obtain ⟨yaw, turned⟩ := eq_fromYaw_mul unit (tilt_isUnit _ _) (seenVertical_angles unit free)
  have forward := cos_toPitch_pos unit free
  constructor
  case rebuilt =>
    have same := (flattenToX_same forward turned).mul_right
      (tilt (a.rotation.toPitch realPitches) (a.rotation.toRoll realAngles))
    rwa [← turned] at same
  case closest_iff =>
    intro upright
    have tiltUnit := tilt_isUnit (a.rotation.toPitch realPitches) (a.rotation.toRoll realAngles)
    have yawUnit := fromYaw_isUnit realLibrary_isExact yaw
    have vertical := tilt_z_eq_zero_iff unit free
    have closest : Quaternion.fromYaw realLibrary (a.flatten realAngles).angle =
        a.rotation.closestYawOnly realLibrary := fromYaw_toYaw realAngles_isExact unit
    rw [fromEuler, closest, ← vertical]
    change SameRotation (_ * tilt _ _) _ ↔ _
    generalize tilt (a.rotation.toPitch realPitches) (a.rotation.toRoll realAngles) = p at *
    have uprightP : p.Upright := by
      by_contra down
      obtain ⟨w, z⟩ := not_upright_iff.mp down
      rw [turned] at upright
      exact upright (by simp [fromYaw_eq, w, z])
    have part : a.rotation.closestYawOnly realLibrary =
        .fromYaw realLibrary yaw * p.closestYawOnly realLibrary := by
      rw [turned]
      exact closestYawOnly_fromYaw_mul realAngles_isExact uprightP yaw
    rw [part, turned, ← closestYawOnly_same_one_iff uprightP]
    constructor
    · intro same
      have left := same.of_mul_right tiltUnit
      rw [← mul_one (Quaternion.fromYaw realLibrary yaw), mul_assoc, one_mul] at left
      exact left.of_mul_left yawUnit
    · intro same
      have left := (same.mul_left (.fromYaw realLibrary yaw)).mul_right p
      rwa [mul_one] at left

/-- A body that is rolled onto its side. -/
theorem eulerAngles_of_isUnit_rolled : EulerAngles ⟨⟨1, 0, 0⟩, ⟨3 / 5, 4 / 5, 0, 0⟩⟩ :=
  eulerAngles_of_isUnit (by norm_num [Quaternion.IsUnit]) (by norm_num)

end SpotSdk.Api
