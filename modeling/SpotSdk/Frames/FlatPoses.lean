import Mathlib.Analysis.SpecialFunctions.Complex.Arg
import SpotSdk.Frames.PlanarPoses

/-!
# Flat poses

`Inflate` puts a planar pose into space and `Flatten` takes a spatial pose to the plane by
the rotation about the vertical axis that is closest to its own. Planar poses then compose
as their inflated ones do, and flattening respects composition exactly below poses that
turn about the vertical axis alone.
-/

namespace SpotSdk.Api

variable {K : Type*}

/-- The functions of `MathLibrary` with the one that reads an angle off two coordinates. -/
structure AngleLibrary (K : Type*) extends MathLibrary K where
  atan2 : K → K → K

section Formulas

variable [Field K]

/-- `FromYaw`. -/
def Quaternion.fromYaw (lib : MathLibrary K) (angle : K) : Quaternion K :=
  ⟨lib.cos (angle / (2 : ℕ)), 0, 0, lib.sin (angle / (2 : ℕ))⟩

/-- `Inflate(Vec2, double)`. -/
def Vec2.inflate (a : Vec2 K) (zHeight : K) : Vec3 K := ⟨a.x, a.y, zHeight⟩

/-- `Flatten(Vec3)`. -/
def Vec3.flatten (a : Vec3 K) : Vec2 K := ⟨a.x, a.y⟩

/-- `Inflate(SE2Pose, double)`. -/
def SE2Pose.inflate (lib : MathLibrary K) (a : SE2Pose K) (zHeight : K) : SE3Pose K :=
  ⟨⟨a.position.x, a.position.y, zHeight⟩, .fromYaw lib a.angle⟩

variable [LinearOrder K]

/-- `ClosestYawOnly`: the scalar part and the vertical one, as a unit. -/
def Quaternion.closestYawOnly (lib : MathLibrary K) (q : Quaternion K) : Quaternion K :=
  let mag := lib.sqrt (q.w * q.w + q.z * q.z)
  if mag > 0 then ⟨q.w / mag, 0, 0, q.z / mag⟩
  else (⟨0, 0, 1, 0⟩ : Quaternion K) * q

/-- `ToYaw`. -/
def Quaternion.toYaw (lib : AngleLibrary K) (q : Quaternion K) : K :=
  let yawOnlyQuat := q.closestYawOnly lib.toMathLibrary
  (2 : ℕ) * lib.atan2 yawOnlyQuat.z yawOnlyQuat.w

/-- `Flatten(SE3Pose)`. -/
def SE3Pose.flatten (lib : AngleLibrary K) (a : SE3Pose K) : SE2Pose K :=
  ⟨⟨a.position.x, a.position.y⟩, a.rotation.toYaw lib⟩

end Formulas

/-- Two planar poses are one motion: their angles may differ by full turns. -/
structure SE2Pose.SameMotion (lib : MathLibrary K) (a b : SE2Pose K) : Prop where
  position : a.position = b.position
  cos : lib.cos a.angle = lib.cos b.angle
  sin : lib.sin a.angle = lib.sin b.angle

/-- The functions are those of exact arithmetic, as far as flat poses need it. -/
structure AngleLibrary.IsExact [Field K] [LinearOrder K] (lib : AngleLibrary K) : Prop
    extends lib.toMathLibrary.IsExact where
  sqrt_nonneg : ∀ s, 0 ≤ lib.sqrt s
  mul_self_sqrt : ∀ s, 0 ≤ s → lib.sqrt s * lib.sqrt s = s
  cos_atan2 : ∀ s c, c * c + s * s ≠ 0 → lib.cos (lib.atan2 s c) = c / lib.sqrt (c * c + s * s)
  sin_atan2 : ∀ s c, c * c + s * s ≠ 0 → lib.sin (lib.atan2 s c) = s / lib.sqrt (c * c + s * s)

/-! ## Planar motions -/

namespace SE2Pose.SameMotion

variable {lib : MathLibrary K} {a b c a' b' : SE2Pose K}

theorem refl (a : SE2Pose K) : SameMotion lib a a := ⟨rfl, rfl, rfl⟩

theorem symm (h : SameMotion lib a b) : SameMotion lib b a :=
  ⟨h.position.symm, h.cos.symm, h.sin.symm⟩

theorem trans (h : SameMotion lib a b) (h' : SameMotion lib b c) : SameMotion lib a c :=
  ⟨h.position.trans h'.position, h.cos.trans h'.cos, h.sin.trans h'.sin⟩

variable [CommRing K]

theorem compose (exact : lib.IsExact) (h : SameMotion lib a a') (h' : SameMotion lib b b') :
    SameMotion lib (compose lib a b) (compose lib a' b') := by
  constructor
  · simp only [SE2Pose.compose, h.position, h.cos, h.sin, h'.position]
  · simp only [SE2Pose.compose, exact.cos_add, h.cos, h.sin, h'.cos, h'.sin]
  · simp only [SE2Pose.compose, exact.sin_add, h.cos, h.sin, h'.cos, h'.sin]

theorem inverse (exact : lib.IsExact) (h : SameMotion lib a b) :
    SameMotion lib (inverse lib a) (inverse lib b) := by
  constructor
  · simp only [SE2Pose.inverse, h.position, h.cos, h.sin]
  · simp only [SE2Pose.inverse, exact.cos_neg, h.cos]
  · simp only [SE2Pose.inverse, exact.sin_neg, h.sin]

theorem adjoint (h : SameMotion lib a b) : a.adjoint lib = b.adjoint lib := by
  simp only [SE2Pose.adjoint, angleToMatrix, h.position, h.cos, h.sin]

end SE2Pose.SameMotion

/-! ## Turns about the vertical axis -/

section Yaw

variable [Field K] {lib : MathLibrary K}

namespace MathLibrary.IsExact

variable [CharZero K]

theorem cos_of_half (exact : lib.IsExact) (s : K) : lib.cos s =
    lib.cos (s / 2) * lib.cos (s / 2) - lib.sin (s / 2) * lib.sin (s / 2) := by
  rw [← exact.cos_add, add_halves]

theorem sin_of_half (exact : lib.IsExact) (s : K) : lib.sin s =
    lib.sin (s / 2) * lib.cos (s / 2) + lib.cos (s / 2) * lib.sin (s / 2) := by
  rw [← exact.sin_add, add_halves]

end MathLibrary.IsExact

namespace Quaternion

theorem fromYaw_eq (lib : MathLibrary K) (s : K) :
    fromYaw lib s = ⟨lib.cos (s / 2), 0, 0, lib.sin (s / 2)⟩ := by
  rw [fromYaw, Nat.cast_ofNat]

theorem fromYaw_add (exact : lib.IsExact) (s t : K) :
    fromYaw lib (s + t) = fromYaw lib s * fromYaw lib t := by
  ext
  · simp [fromYaw_eq, add_div, exact.cos_add]
  · simp [fromYaw_eq]
  · simp [fromYaw_eq]
  · simp [fromYaw_eq, add_div, exact.sin_add]
    ring

theorem fromYaw_zero (exact : lib.IsExact) : fromYaw lib 0 = 1 := by
  ext <;> simp [fromYaw_eq, exact.cos_zero, exact.sin_zero]

theorem fromYaw_isUnit (exact : lib.IsExact) (s : K) : (fromYaw lib s).IsUnit := by
  simpa [IsUnit, fromYaw_eq] using exact.cos_mul_self_add (s / 2)

variable [CharZero K]

/-- A turn about the vertical axis by an angle, which keeps the height. -/
theorem fromYaw_rotate (exact : lib.IsExact) (s : K) (p : Vec3 K) :
    fromYaw lib s * p =
      ⟨lib.cos s * p.x - lib.sin s * p.y, lib.sin s * p.x + lib.cos s * p.y, p.z⟩ := by
  have unit := exact.cos_mul_self_add (s / 2)
  rw [exact.cos_of_half s, exact.sin_of_half s]
  ext
  · simp only [rotate_x, fromYaw_eq, pure, mul_w, mul_x, mul_y, mul_z, conj_w, conj_x, conj_y,
      conj_z]
    ring
  · simp only [rotate_y, fromYaw_eq, pure, mul_w, mul_x, mul_y, mul_z, conj_w, conj_x, conj_y,
      conj_z]
    ring
  · simp only [rotate_z, fromYaw_eq, pure, mul_w, mul_x, mul_y, mul_z, conj_w, conj_x, conj_y,
      conj_z]
    linear_combination p.z * unit

/-- Turns by angles of one quaternion are one turn. -/
theorem same_of_fromYaw_eq (exact : lib.IsExact) {s t : K} (h : fromYaw lib s = fromYaw lib t) :
    lib.cos s = lib.cos t ∧ lib.sin s = lib.sin t := by
  have cos : lib.cos (s / 2) = lib.cos (t / 2) := congrArg Quaternion.w h
  have sin : lib.sin (s / 2) = lib.sin (t / 2) := congrArg Quaternion.z h
  rw [exact.cos_of_half s, exact.sin_of_half s, cos, sin, ← exact.cos_of_half t,
    ← exact.sin_of_half t]
  exact ⟨rfl, rfl⟩

end Quaternion

namespace SE2Pose

theorem inflate_identity (exact : lib.IsExact) : (identity : SE2Pose K).inflate lib 0 = 1 := by
  ext1
  · rfl
  · exact Quaternion.fromYaw_zero exact

variable [CharZero K]

theorem inflate_compose (exact : lib.IsExact) (a b : SE2Pose K) (z w : K) :
    (compose lib a b).inflate lib (z + w) = a.inflate lib z * b.inflate lib w := by
  have turned := Quaternion.fromYaw_rotate exact a.angle (b.inflate lib w).position
  ext1
  · change _ = (a.inflate lib z).position +
      Quaternion.fromYaw lib a.angle * (b.inflate lib w).position
    rw [turned]
    ext
    · simp only [inflate, compose, Vec3.add_x]
      ring
    · simp only [inflate, compose, Vec3.add_y]
      ring
    · rfl
  · exact Quaternion.fromYaw_add exact _ _

theorem inflate_inverse (exact : lib.IsExact) (a : SE2Pose K) (z : K) :
    (inverse lib a).inflate lib (-z) = ~~~a.inflate lib z := by
  have unit : (a.inflate lib z).rotation.IsUnit := Quaternion.fromYaw_isUnit exact a.angle
  calc
    (inverse lib a).inflate lib (-z)
      = ~~~a.inflate lib z * a.inflate lib z * (inverse lib a).inflate lib (-z) := by
        rw [SE3Pose.inv_mul_cancel unit, one_mul]
    _ = ~~~a.inflate lib z * (compose lib a (inverse lib a)).inflate lib (z + -z) := by
        rw [mul_assoc, inflate_compose exact]
    _ = ~~~a.inflate lib z := by
        rw [compose_inverse exact, add_neg_cancel, inflate_identity exact, mul_one]

theorem inflate_act (exact : lib.IsExact) (a : SE2Pose K) (z : K) (p : Vec2 K) (w : K) :
    a.inflate lib z * p.inflate w = (a.act lib p).inflate (z + w) := by
  change Quaternion.fromYaw lib a.angle * p.inflate w + _ = _
  rw [Quaternion.fromYaw_rotate exact]
  ext
  · simp only [inflate, act, Vec2.inflate, Vec3.add_x]
    ring
  · simp only [inflate, act, Vec2.inflate, Vec3.add_y]
    ring
  · simp only [inflate, Vec2.inflate, Vec3.add_z]
    ring

end SE2Pose

end Yaw

/-! ## The closest turn about the vertical axis -/

section Closest

variable [Field K] [LinearOrder K] [IsStrictOrderedRing K] {lib : AngleLibrary K}
  {q : Quaternion K} {a b : SE3Pose K}

namespace Quaternion

/-- The rotation does not turn the vertical axis upside down. -/
def Upright (q : Quaternion K) : Prop := q.w * q.w + q.z * q.z ≠ 0

/-- A turn about the vertical axis alone. -/
def YawOnly (q : Quaternion K) : Prop := q.x = 0 ∧ q.y = 0

theorem not_upright_iff : ¬ q.Upright ↔ q.w = 0 ∧ q.z = 0 := by
  rw [Upright, not_not]
  exact mul_self_add_mul_self_eq_zero

theorem sumSq_nonneg (q : Quaternion K) : 0 ≤ q.w * q.w + q.z * q.z :=
  add_nonneg (mul_self_nonneg _) (mul_self_nonneg _)

theorem mag_mul_self (exact : lib.IsExact) (q : Quaternion K) :
    lib.sqrt (q.w * q.w + q.z * q.z) * lib.sqrt (q.w * q.w + q.z * q.z) =
      q.w * q.w + q.z * q.z :=
  exact.mul_self_sqrt _ q.sumSq_nonneg

theorem mag_pos_iff (exact : lib.IsExact) :
    0 < lib.sqrt (q.w * q.w + q.z * q.z) ↔ q.Upright := by
  have square := mag_mul_self exact q
  rw [Upright, ← square, mul_self_ne_zero, square]
  exact (exact.sqrt_nonneg _).lt_iff_ne'

theorem closestYawOnly_of_upright (exact : lib.IsExact) (upright : q.Upright) :
    q.closestYawOnly lib.toMathLibrary =
      ⟨q.w / lib.sqrt (q.w * q.w + q.z * q.z), 0, 0,
        q.z / lib.sqrt (q.w * q.w + q.z * q.z)⟩ :=
  if_pos ((mag_pos_iff exact).mpr upright)

/-- Upside down, the half turn about the second axis comes first. -/
theorem closestYawOnly_of_not_upright (exact : lib.IsExact) (down : ¬ q.Upright) :
    q.closestYawOnly lib.toMathLibrary = ⟨-q.y, 0, 0, -q.x⟩ := by
  have scalars := not_upright_iff.mp down
  have fallback : q.closestYawOnly lib.toMathLibrary = (⟨0, 0, 1, 0⟩ : Quaternion K) * q :=
    if_neg (mt (mag_pos_iff exact).mp down)
  rw [fallback]
  ext <;> simp [scalars.1, scalars.2]

theorem closestYawOnly_yawOnly (exact : lib.IsExact) (q : Quaternion K) :
    (q.closestYawOnly lib.toMathLibrary).YawOnly := by
  by_cases upright : q.Upright
  · rw [closestYawOnly_of_upright exact upright]
    exact ⟨rfl, rfl⟩
  · rw [closestYawOnly_of_not_upright exact upright]
    exact ⟨rfl, rfl⟩

theorem closestYawOnly_isUnit (exact : lib.IsExact) (unit : q.IsUnit) :
    (q.closestYawOnly lib.toMathLibrary).IsUnit := by
  by_cases upright : q.Upright
  · have mag := (mag_pos_iff exact).mpr upright
    have square := mag_mul_self exact q
    rw [closestYawOnly_of_upright exact upright]
    simp only [IsUnit, mul_zero, add_zero]
    generalize lib.sqrt (q.w * q.w + q.z * q.z) = length at mag square
    have nonzero := mag.ne'
    field_simp
    linear_combination -square
  · have scalars := not_upright_iff.mp upright
    rw [closestYawOnly_of_not_upright exact upright]
    simp only [IsUnit, scalars.1, scalars.2] at unit ⊢
    linear_combination unit

/-- A unit turn about the vertical axis is its own closest one. -/
theorem closestYawOnly_eq_self (exact : lib.IsExact) (unit : q.IsUnit) (flat : q.YawOnly) :
    q.closestYawOnly lib.toMathLibrary = q := by
  have one : q.w * q.w + q.z * q.z = 1 := by
    simpa [IsUnit, flat.1, flat.2] using unit
  have upright : q.Upright := by
    rw [Upright, one]
    exact one_ne_zero
  rw [closestYawOnly_of_upright exact upright, one, exact.sqrt_one]
  ext <;> simp [flat.1, flat.2]

/-- The angle that `ToYaw` returns is that of the closest turn. -/
theorem fromYaw_toYaw (exact : lib.IsExact) (unit : q.IsUnit) :
    fromYaw lib.toMathLibrary (q.toYaw lib) = q.closestYawOnly lib.toMathLibrary := by
  have flat := closestYawOnly_yawOnly exact q
  have one : (q.closestYawOnly lib.toMathLibrary).w * (q.closestYawOnly lib.toMathLibrary).w +
      (q.closestYawOnly lib.toMathLibrary).z * (q.closestYawOnly lib.toMathLibrary).z = 1 := by
    simpa [IsUnit, flat.1, flat.2] using closestYawOnly_isUnit exact unit
  have nonzero := one.trans_ne one_ne_zero
  have half : q.toYaw lib / 2 = lib.atan2 (q.closestYawOnly lib.toMathLibrary).z
      (q.closestYawOnly lib.toMathLibrary).w := by
    rw [toYaw, Nat.cast_ofNat]
    exact mul_div_cancel_left₀ _ two_ne_zero
  ext
  · rw [fromYaw_eq, half, exact.cos_atan2 _ _ nonzero, one, exact.sqrt_one, div_one]
  · exact flat.1.symm
  · exact flat.2.symm
  · rw [fromYaw_eq, half, exact.sin_atan2 _ _ nonzero, one, exact.sqrt_one, div_one]

/-- Turning about the vertical axis turns the closest turn, unless it is ill-posed. -/
theorem closestYawOnly_fromYaw_mul (exact : lib.IsExact) (upright : q.Upright) (s : K) :
    (fromYaw lib.toMathLibrary s * q).closestYawOnly lib.toMathLibrary =
      fromYaw lib.toMathLibrary s * q.closestYawOnly lib.toMathLibrary := by
  have unit := exact.cos_mul_self_add (s / 2)
  have same : (fromYaw lib.toMathLibrary s * q).w * (fromYaw lib.toMathLibrary s * q).w +
      (fromYaw lib.toMathLibrary s * q).z * (fromYaw lib.toMathLibrary s * q).z =
        q.w * q.w + q.z * q.z := by
    simp only [fromYaw_eq, mul_w, mul_z]
    linear_combination (q.w * q.w + q.z * q.z) * unit
  have turned : (fromYaw lib.toMathLibrary s * q).Upright := by
    rwa [Upright, same]
  rw [closestYawOnly_of_upright exact turned, closestYawOnly_of_upright exact upright, same]
  ext
  · simp [fromYaw_eq]
    ring
  · simp [fromYaw_eq]
  · simp [fromYaw_eq]
  · simp [fromYaw_eq]
    ring

/-- A rotation that keeps the vertical axis turns about it alone. -/
theorem yawOnly_of_vertical (upright : q.Upright) (x : (q * (⟨0, 0, 1⟩ : Vec3 K)).x = 0)
    (y : (q * (⟨0, 0, 1⟩ : Vec3 K)).y = 0) : q.YawOnly := by
  simp only [rotate_x, rotate_y, pure, mul_x, mul_y, mul_w, mul_z, conj_w, conj_x, conj_y,
    conj_z] at x y
  constructor
  · apply (mul_eq_zero.mp _).resolve_left upright
    linear_combination q.z / 2 * x - q.w / 2 * y
  · apply (mul_eq_zero.mp _).resolve_left upright
    linear_combination q.w / 2 * x + q.z / 2 * y

/-- Upside down a rotation mirrors the plane, while the turn that stands for it does not. -/
theorem not_turns_of_not_upright (exact : lib.IsExact) (unit : q.IsUnit) (down : ¬ q.Upright)
    (turns : ∀ p : Vec3 K, (q * p).x =
      lib.cos (q.toYaw lib) * p.x - lib.sin (q.toYaw lib) * p.y) : False := by
  obtain ⟨w, z⟩ := not_upright_iff.mp down
  have turn := fromYaw_toYaw exact unit
  rw [closestYawOnly_of_not_upright exact down] at turn
  have half_cos : lib.cos (q.toYaw lib / 2) = -q.y := congrArg Quaternion.w turn
  have half_sin : lib.sin (q.toYaw lib / 2) = -q.x := congrArg Quaternion.z turn
  have cos : lib.cos (q.toYaw lib) = q.y * q.y - q.x * q.x := by
    rw [exact.cos_of_half, half_cos, half_sin]
    ring
  have sin : lib.sin (q.toYaw lib) = 2 * q.x * q.y := by
    rw [exact.sin_of_half, half_cos, half_sin]
    ring
  have mirrored (p : Vec3 K) :
      (q * p).x = (q.x * q.x - q.y * q.y) * p.x + 2 * q.x * q.y * p.y := by
    simp only [rotate_x, pure, mul_x, mul_y, mul_w, mul_z, conj_w, conj_x, conj_y, conj_z, w, z]
    ring
  have forward := turns ⟨1, 0, 0⟩
  have sideways := turns ⟨0, 1, 0⟩
  rw [mirrored, cos, sin] at forward sideways
  simp only [IsUnit, w, z] at unit
  have equal : q.x * q.x = q.y * q.y := by linear_combination forward / 2
  have product : q.x * q.y = 0 := by linear_combination sideways / 4
  have half : q.x * q.x = 1 / 2 := by linear_combination unit / 2 + equal / 2
  have zero : (1 : K) / 2 * (1 / 2) = 0 := by
    calc
      (1 : K) / 2 * (1 / 2) = q.x * q.x * (q.y * q.y) := by rw [← equal, half]
      _ = q.x * q.y * (q.x * q.y) := by ring
      _ = 0 := by rw [product, mul_zero]
  norm_num at zero

/-- Of all turns about the vertical axis none is closer to the rotation. -/
theorem dotProduct_fromYaw_le (exact : lib.IsExact) (q : Quaternion K) (s : K) :
    |dotProduct (fromYaw lib.toMathLibrary s) q| ≤
      dotProduct (q.closestYawOnly lib.toMathLibrary) q := by
  have unit := exact.cos_mul_self_add (s / 2)
  have left : dotProduct (fromYaw lib.toMathLibrary s) q =
      lib.sin (s / 2) * q.z + lib.cos (s / 2) * q.w := by
    simp [dotProduct, fromYaw_eq]
  by_cases upright : q.Upright
  · have mag := (mag_pos_iff exact).mpr upright
    have square := mag_mul_self exact q
    have right : dotProduct (q.closestYawOnly lib.toMathLibrary) q =
        lib.sqrt (q.w * q.w + q.z * q.z) := by
      rw [closestYawOnly_of_upright exact upright, dotProduct]
      generalize lib.sqrt (q.w * q.w + q.z * q.z) = length at mag square
      have nonzero := mag.ne'
      field_simp
      linear_combination -square
    rw [left, right]
    apply abs_le_of_sq_le_sq _ mag.le
    have spread := mul_self_nonneg (lib.sin (s / 2) * q.w - lib.cos (s / 2) * q.z)
    nlinarith [square, unit, spread]
  · have scalars := not_upright_iff.mp upright
    rw [left, closestYawOnly_of_not_upright exact upright, dotProduct, scalars.1, scalars.2]
    simp

/-- The closest turn is the only one as close, but for full turns. -/
theorem same_turn_of_dotProduct_eq (exact : lib.IsExact) (unit : q.IsUnit)
    (upright : q.Upright) {s : K} (close : |dotProduct (fromYaw lib.toMathLibrary s) q| =
      dotProduct (q.closestYawOnly lib.toMathLibrary) q) :
    lib.cos s = lib.cos (q.toYaw lib) ∧ lib.sin s = lib.sin (q.toYaw lib) := by
  have turn := fromYaw_toYaw exact unit
  have half_cos := congrArg Quaternion.w turn
  have half_sin := congrArg Quaternion.z turn
  have mag := (mag_pos_iff exact).mpr upright
  have square := mag_mul_self exact q
  have round := exact.cos_mul_self_add (s / 2)
  rw [closestYawOnly_of_upright exact upright] at close half_cos half_sin
  rw [exact.cos_of_half s, exact.sin_of_half s, exact.cos_of_half (q.toYaw lib),
    exact.sin_of_half (q.toYaw lib)]
  simp only [fromYaw_eq] at half_cos half_sin
  rw [half_cos, half_sin]
  simp only [dotProduct, fromYaw_eq] at close
  generalize lib.sqrt (q.w * q.w + q.z * q.z) = length at *
  generalize lib.cos (s / 2) = c at *
  generalize lib.sin (s / 2) = t at *
  have nonzero := mag.ne'
  have longest : (t * q.z + c * q.w) * (t * q.z + c * q.w) = length * length := by
    have right : 0 * q.x + 0 * q.y + q.z / length * q.z + q.w / length * q.w = length := by
      field_simp
      linear_combination -square
    rw [right] at close
    rw [← close, abs_mul_abs_self]
    ring
  -- Equality holds along one direction alone.
  have along : t * q.w = c * q.z := by
    apply sub_eq_zero.mp
    apply mul_self_eq_zero.mp
    linear_combination (q.w * q.w + q.z * q.z) * round - longest - square
  constructor
  · field_simp
    linear_combination (c * c - t * t) * square + (q.w * q.w - q.z * q.z) * round -
      (2 * t * q.w + 2 * c * q.z) * along
  · field_simp
    linear_combination t * c * square + q.w * q.z * round + (c * q.w - t * q.z) * along

end Quaternion

namespace SE3Pose

/-- A flattened pose that is put back has the closest turn for its rotation. -/
theorem inflate_flatten (exact : lib.IsExact) (unit : a.rotation.IsUnit) (zHeight : K) :
    (a.flatten lib).inflate lib.toMathLibrary zHeight =
      ⟨⟨a.position.x, a.position.y, zHeight⟩,
        a.rotation.closestYawOnly lib.toMathLibrary⟩ := by
  ext1
  · rfl
  · exact Quaternion.fromYaw_toYaw exact unit

theorem inflate_flatten_of_yawOnly (exact : lib.IsExact) (unit : a.rotation.IsUnit)
    (flat : a.rotation.YawOnly) :
    (a.flatten lib).inflate lib.toMathLibrary a.position.z = a := by
  rw [inflate_flatten exact unit, Quaternion.closestYawOnly_eq_self exact unit flat]

theorem flatten_inflate (exact : lib.IsExact) (a : SE2Pose K) (zHeight : K) :
    ((a.inflate lib.toMathLibrary zHeight).flatten lib).SameMotion lib.toMathLibrary a := by
  have unit := Quaternion.fromYaw_isUnit exact.toIsExact a.angle
  have turn : Quaternion.fromYaw lib.toMathLibrary
      ((Quaternion.fromYaw lib.toMathLibrary a.angle).toYaw lib) =
        Quaternion.fromYaw lib.toMathLibrary a.angle := by
    rw [Quaternion.fromYaw_toYaw exact unit,
      Quaternion.closestYawOnly_eq_self exact unit ⟨rfl, rfl⟩]
  obtain ⟨cos, sin⟩ := Quaternion.same_of_fromYaw_eq exact.toIsExact turn
  exact ⟨rfl, cos, sin⟩

/-- Below an inflated pose flattening respects composition. -/
theorem flatten_inflate_mul (exact : lib.IsExact) (a : SE2Pose K) (zHeight : K)
    (unit : b.rotation.IsUnit) (upright : b.rotation.Upright) :
    ((a.inflate lib.toMathLibrary zHeight * b).flatten lib).SameMotion lib.toMathLibrary
      (.compose lib.toMathLibrary a (b.flatten lib)) := by
  have turn : Quaternion.fromYaw lib.toMathLibrary
      ((Quaternion.fromYaw lib.toMathLibrary a.angle * b.rotation).toYaw lib) =
        Quaternion.fromYaw lib.toMathLibrary (a.angle + b.rotation.toYaw lib) := by
    rw [Quaternion.fromYaw_toYaw exact ((Quaternion.fromYaw_isUnit exact.toIsExact _).mul unit),
      Quaternion.closestYawOnly_fromYaw_mul exact upright,
      Quaternion.fromYaw_add exact.toIsExact, Quaternion.fromYaw_toYaw exact unit]
  obtain ⟨cos, sin⟩ := Quaternion.same_of_fromYaw_eq exact.toIsExact turn
  refine ⟨?_, cos, sin⟩
  have turned := Quaternion.fromYaw_rotate exact.toIsExact a.angle b.position
  ext
  · simp only [flatten, mul_position, SE2Pose.inflate, turned, SE2Pose.compose, Vec3.add_x]
    ring
  · simp only [flatten, mul_position, SE2Pose.inflate, turned, SE2Pose.compose, Vec3.add_y]
    ring

/-- What a pose below which flattening respects composition does to a point. -/
theorem rotate_of_flatten_mul (same : ∀ b : SE3Pose K, b.rotation.IsUnit → b.rotation.Upright →
      ((a * b).flatten lib).SameMotion lib.toMathLibrary
        (.compose lib.toMathLibrary (a.flatten lib) (b.flatten lib))) (p : Vec3 K) :
    (a.rotation * p).x = lib.cos (a.rotation.toYaw lib) * p.x -
        lib.sin (a.rotation.toYaw lib) * p.y ∧
      (a.rotation * p).y = lib.sin (a.rotation.toYaw lib) * p.x +
        lib.cos (a.rotation.toYaw lib) * p.y := by
  have upright : (1 : Quaternion K).Upright := by simp [Quaternion.Upright]
  have moved := (same ⟨p, 1⟩ Quaternion.isUnit_one upright).position
  have x := congrArg Vec2.x moved
  have y := congrArg Vec2.y moved
  simp only [SE2Pose.compose, flatten, mul_position, Vec3.add_x, Vec3.add_y] at x y
  constructor
  · linear_combination x
  · linear_combination y

/-- Flattening respects composition below a pose exactly when it turns about the vertical
axis alone. -/
theorem flatten_mul_same_iff (exact : lib.IsExact) (unit : a.rotation.IsUnit) :
    (∀ b : SE3Pose K, b.rotation.IsUnit → b.rotation.Upright →
      ((a * b).flatten lib).SameMotion lib.toMathLibrary
        (.compose lib.toMathLibrary (a.flatten lib) (b.flatten lib))) ↔
      a.rotation.YawOnly := by
  constructor
  · intro same
    have moves := rotate_of_flatten_mul same
    by_cases upright : a.rotation.Upright
    · obtain ⟨x, y⟩ := moves ⟨0, 0, 1⟩
      apply Quaternion.yawOnly_of_vertical upright
      · rw [x, mul_zero, mul_zero, sub_zero]
      · rw [y, mul_zero, mul_zero, add_zero]
    · exact (Quaternion.not_turns_of_not_upright exact unit upright fun p =>
        (moves p).1).elim
  · intro flat b unitB upright
    have whole := inflate_flatten_of_yawOnly exact unit flat
    have below := flatten_inflate_mul exact (a.flatten lib) a.position.z unitB upright
    rwa [whole] at below

end SE3Pose

/-- Planar poses embed into the spatial ones at any heights, and flattening undoes it. -/
structure EmbedsMotions (lib : AngleLibrary K) (a b : SE2Pose K) (z w : K) : Prop where
  compose : (SE2Pose.compose lib.toMathLibrary a b).inflate lib.toMathLibrary (z + w) =
    a.inflate lib.toMathLibrary z * b.inflate lib.toMathLibrary w
  identity : (SE2Pose.identity : SE2Pose K).inflate lib.toMathLibrary 0 = 1
  inverse : (a.inverse lib.toMathLibrary).inflate lib.toMathLibrary (-z) =
    ~~~a.inflate lib.toMathLibrary z
  act : ∀ p : Vec2 K, a.inflate lib.toMathLibrary z * p.inflate w =
    (a.act lib.toMathLibrary p).inflate (z + w)
  undone : ((a.inflate lib.toMathLibrary z).flatten lib).SameMotion lib.toMathLibrary a

/-- `Flatten` keeps the position and turns by the closest angle, which is the only one
unless the vertical axis is upside down. A pose that was flat is kept. -/
structure FlattensClosest (lib : AngleLibrary K) (a : SE3Pose K) : Prop where
  position : (a.flatten lib).position = a.position.flatten
  closest : ∀ s, |dotProduct (.fromYaw lib.toMathLibrary s) a.rotation| ≤
    dotProduct (.fromYaw lib.toMathLibrary (a.flatten lib).angle) a.rotation
  unique : a.rotation.Upright → ∀ s,
    |dotProduct (.fromYaw lib.toMathLibrary s) a.rotation| =
        dotProduct (.fromYaw lib.toMathLibrary (a.flatten lib).angle) a.rotation →
      lib.cos s = lib.cos (a.flatten lib).angle ∧ lib.sin s = lib.sin (a.flatten lib).angle
  kept : a.rotation.YawOnly →
    (a.flatten lib).inflate lib.toMathLibrary a.position.z = a

end Closest

/-! ## Real arithmetic -/

/-- The real functions, with the argument of a complex number. -/
noncomputable def realAngles : AngleLibrary ℝ where
  toMathLibrary := realLibrary
  atan2 s c := Complex.arg ⟨c, s⟩

theorem realAngles_isExact : realAngles.IsExact where
  toIsExact := realLibrary_isExact
  sqrt_nonneg := Real.sqrt_nonneg
  mul_self_sqrt _ := Real.mul_self_sqrt
  cos_atan2 s c nonzero := by
    have apart : (⟨c, s⟩ : ℂ) ≠ 0 := by
      rintro ⟨⟩
      simp at nonzero
    exact Complex.cos_arg apart
  sin_atan2 s c _ := Complex.sin_arg ⟨c, s⟩

theorem inflate_embeds (a b : SE2Pose ℝ) (z w : ℝ) : EmbedsMotions realAngles a b z w := by
  constructor
  case compose => exact SE2Pose.inflate_compose realLibrary_isExact a b z w
  case identity => exact SE2Pose.inflate_identity realLibrary_isExact
  case inverse => exact SE2Pose.inflate_inverse realLibrary_isExact a z
  case act => exact fun p => SE2Pose.inflate_act realLibrary_isExact a z p w
  case undone => exact SE3Pose.flatten_inflate realAngles_isExact a z

theorem flatten_closest {a : SE3Pose ℝ} (unit : a.rotation.IsUnit) :
    FlattensClosest realAngles a := by
  have turn := Quaternion.fromYaw_toYaw realAngles_isExact unit
  constructor
  case position => rfl
  case closest =>
    intro s
    change _ ≤ dotProduct (.fromYaw _ (a.rotation.toYaw realAngles)) _
    rw [turn]
    exact Quaternion.dotProduct_fromYaw_le realAngles_isExact a.rotation s
  case unique =>
    intro upright s close
    change _ = dotProduct (.fromYaw _ (a.rotation.toYaw realAngles)) _ at close
    rw [turn] at close
    exact Quaternion.same_turn_of_dotProduct_eq realAngles_isExact unit upright close
  case kept =>
    exact SE3Pose.inflate_flatten_of_yawOnly realAngles_isExact unit

/-- A body that is turned by one radian and rolled by two. -/
noncomputable def rolledAfterTurn : SE3Pose ℝ :=
  ⟨⟨1, 0, 1⟩, .fromYaw realLibrary 1 * ⟨Real.cos 1, Real.sin 1, 0, 0⟩⟩

theorem rolledAfterTurn_isUnit : rolledAfterTurn.rotation.IsUnit := by
  apply (Quaternion.fromYaw_isUnit realLibrary_isExact 1).mul
  have unit := Real.cos_sq_add_sin_sq 1
  rw [Quaternion.IsUnit]
  linear_combination unit

theorem rolledAfterTurn_mag :
    rolledAfterTurn.rotation.w * rolledAfterTurn.rotation.w +
      rolledAfterTurn.rotation.z * rolledAfterTurn.rotation.z = Real.cos 1 * Real.cos 1 := by
  have unit := Real.cos_sq_add_sin_sq 2⁻¹
  simp [rolledAfterTurn, Quaternion.fromYaw_eq, realLibrary]
  linear_combination Real.cos 1 ^ 2 * unit

theorem dotProduct_rolledAfterTurn (s : ℝ) :
    dotProduct (.fromYaw realLibrary s) rolledAfterTurn.rotation =
      Real.cos 1 * Real.cos (s / 2 - 1 / 2) := by
  rw [Real.cos_sub]
  simp [dotProduct, rolledAfterTurn, Quaternion.fromYaw_eq, realLibrary]
  ring

/-- The flat pose of the body is turned, and not rolled. -/
theorem flatten_closest_rolled :
    (rolledAfterTurn.flatten realAngles).SameMotion realLibrary ⟨⟨1, 0⟩, 1⟩ := by
  have closest := flatten_closest rolledAfterTurn_isUnit
  have forward : 0 < Real.cos 1 := Real.cos_one_pos
  have upright : rolledAfterTurn.rotation.Upright := by
    rw [Quaternion.Upright, rolledAfterTurn_mag]
    exact mul_self_ne_zero.mpr forward.ne'
  have equal : |dotProduct (.fromYaw realLibrary 1) rolledAfterTurn.rotation| =
      dotProduct (.fromYaw realLibrary (rolledAfterTurn.flatten realAngles).angle)
        rolledAfterTurn.rotation := by
    apply le_antisymm (closest.closest 1)
    change dotProduct (.fromYaw realLibrary _) _ ≤ |dotProduct (.fromYaw realLibrary 1) _|
    rw [dotProduct_rolledAfterTurn, dotProduct_rolledAfterTurn, sub_self, Real.cos_zero, mul_one,
      abs_of_pos forward]
    exact mul_le_of_le_one_right forward.le (Real.cos_le_one _)
  obtain ⟨cos, sin⟩ := closest.unique upright 1 equal
  exact ⟨closest.position, cos.symm, sin.symm⟩

/-- Planar composition of flattened poses is right below a frame exactly when that frame is
turned about the vertical axis alone. -/
theorem flattens_below_iff {a : SE3Pose ℝ} (unit : a.rotation.IsUnit) :
    (∀ b : SE3Pose ℝ, b.rotation.IsUnit → b.rotation.Upright →
      ((a * b).flatten realAngles).SameMotion realLibrary
        (.compose realLibrary (a.flatten realAngles) (b.flatten realAngles))) ↔
      a.rotation.YawOnly :=
  SE3Pose.flatten_mul_same_iff realAngles_isExact unit

/-- A body that faces backwards. -/
def turnedAround : SE3Pose ℝ := ⟨⟨1, 0, 1⟩, ⟨0, 0, 0, 1⟩⟩

/-- Planar composition is right below the body that faces backwards, and wrong somewhere
below the one that is rolled. -/
theorem flattens_below_iff_turnedAround :
    (∀ b : SE3Pose ℝ, b.rotation.IsUnit → b.rotation.Upright →
      ((turnedAround * b).flatten realAngles).SameMotion realLibrary
        (.compose realLibrary (turnedAround.flatten realAngles) (b.flatten realAngles))) ∧
      ∃ b : SE3Pose ℝ, b.rotation.IsUnit ∧ b.rotation.Upright ∧
        ¬ ((rolledAfterTurn * b).flatten realAngles).SameMotion realLibrary
          (.compose realLibrary (rolledAfterTurn.flatten realAngles) (b.flatten realAngles)) := by
  constructor
  · exact (flattens_below_iff (by simp [turnedAround, Quaternion.IsUnit])).mpr ⟨rfl, rfl⟩
  · by_contra none
    push Not at none
    obtain ⟨rolled, -⟩ := (flattens_below_iff rolledAfterTurn_isUnit).mp none
    have half : 0 < Real.cos (1 / 2) :=
      Real.cos_pos_of_mem_Ioo ⟨by linarith [Real.two_le_pi], by linarith [Real.two_le_pi]⟩
    have product : rolledAfterTurn.rotation.x = Real.cos (1 / 2) * Real.sin 1 := by
      simp [rolledAfterTurn, Quaternion.fromYaw_eq, realLibrary]
    have positive := mul_pos half (Real.sin_pos_of_pos_of_lt_pi one_pos
      (by linarith [Real.two_le_pi]))
    exact positive.ne' (product.symm.trans rolled)

end SpotSdk.Api
