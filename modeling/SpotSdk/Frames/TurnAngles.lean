import SpotSdk.Frames.FlatPoses
import SpotSdk.Frames.UnitRotations

/-!
# Angles on the way between rotations

`ToAngle` reads off a rotation the angle it turns by. In real arithmetic the angles from
the ends to an interpolated rotation add up to the angle between the ends, and between
rotations that are not close they are in proportion to `t`.
-/

namespace SpotSdk.Api

open SpotSdk.Api.Quaternion

/-- `ToAngle`. -/
def Quaternion.toAngle {K : Type*} [Field K] [LinearOrder K] (lib : AngleLibrary K)
    (q : Quaternion K) : K :=
  let norm := lib.sqrt (q.x * q.x + q.y * q.y + q.z * q.z)
  if norm ≠ 0 then abs ((2 : ℕ) * lib.atan2 norm (abs q.w)) else 0

variable {a b q r : Quaternion ℝ} {s t : ℝ}

/-! ## The angle of a relative rotation -/

/-- A point of the upper half of the unit circle by its angle. -/
theorem arg_eq_arccos {c : ℝ} (low : -1 ≤ c) (high : c ≤ 1) :
    Complex.arg ⟨c, √(1 - c ^ 2)⟩ = Real.arccos c := by
  have point : (⟨c, √(1 - c ^ 2)⟩ : ℂ) =
      Complex.cos (Real.arccos c) + Complex.sin (Real.arccos c) * Complex.I := by
    rw [← Complex.ofReal_cos, ← Complex.ofReal_sin, Real.cos_arccos low high, Real.sin_arccos]
    exact Complex.mk_eq_add_mul_I _ _
  rw [point]
  apply Complex.arg_cos_add_sin_mul_I
  exact ⟨by linarith [Real.arccos_nonneg c, Real.pi_pos], Real.arccos_le_pi c⟩

/-- The angle of a unit quaternion by its scalar part. -/
theorem toAngle_eq (unit : q.IsUnit) :
    q.toAngle realAngles = 2 * Real.arccos |q.w| := by
  have parts : q.x * q.x + q.y * q.y + q.z * q.z = 1 - |q.w| ^ 2 := by
    rw [Quaternion.IsUnit] at unit
    rw [sq_abs]
    linear_combination unit
  have high : |q.w| ≤ 1 := by
    rw [Quaternion.IsUnit] at unit
    rw [abs_le_one_iff_mul_self_le_one]
    nlinarith [mul_self_nonneg q.x, mul_self_nonneg q.y, mul_self_nonneg q.z]
  have low : 0 ≤ |q.w| := abs_nonneg _
  have turn : realAngles.atan2 √(1 - |q.w| ^ 2) |q.w| = Real.arccos |q.w| :=
    arg_eq_arccos (by linarith) high
  rw [toAngle]
  change (if √(q.x * q.x + q.y * q.y + q.z * q.z) ≠ 0 then _ else _) = _
  rw [parts]
  split
  · rw [Nat.cast_ofNat]
    change abs (2 * realAngles.atan2 √(1 - |q.w| ^ 2) |q.w|) = _
    rw [turn, abs_of_nonneg (mul_nonneg zero_le_two (Real.arccos_nonneg _))]
  · next zero =>
    have whole : 1 - |q.w| ^ 2 ≤ 0 := Real.sqrt_eq_zero'.mp (not_not.mp zero)
    have one : |q.w| = 1 := by nlinarith
    rw [one, Real.arccos_one, mul_zero]

/-- The scalar part of a relative rotation. -/
theorem relative_w (a b : Quaternion ℝ) : (~~~a * b).w = dotProduct a b := by
  simp only [mul_w, conj_w, conj_x, conj_y, conj_z, dotProduct]
  ring

/-- The angle between two rotations. -/
theorem toAngle_relative (ha : a.IsUnit) (hb : b.IsUnit) :
    (~~~a * b).toAngle realAngles = 2 * Real.arccos |dotProduct a b| := by
  rw [toAngle_eq (ha.conj.mul hb), relative_w]

/-! ## Between the ends -/

/-- A unit quaternion between two others divides the angle between them. -/
theorem arccos_add_arccos (ha : a.IsUnit) (hb : b.IsUnit) (near : 0 ≤ dotProduct a b)
    (hs : 0 ≤ s) (ht : 0 ≤ t) (unit : (s * a + t * b).IsUnit) :
    Real.arccos (dotProduct a (s * a + t * b)) + Real.arccos (dotProduct b (s * a + t * b)) =
      Real.arccos (dotProduct a b) := by
  have bound := (abs_le.mp (abs_dotProduct_le ha hb)).2
  have left : dotProduct a (s * a + t * b) = s + t * dotProduct a b := by
    rw [dotProduct_combination, isUnit_iff_dotProduct.mp ha, mul_one]
  have right : dotProduct b (s * a + t * b) = s * dotProduct a b + t := by
    rw [dotProduct_combination, isUnit_iff_dotProduct.mp hb, mul_one, dotProduct_comm b a]
  have one : s * s + t * t + 2 * s * t * dotProduct a b = 1 := by
    rw [isUnit_iff_dotProduct, dotProduct_combination, dotProduct_comm _ a, dotProduct_comm _ b,
      left, right] at unit
    linear_combination unit
  rw [left, right]
  generalize dotProduct a b = d at *
  have apart : 0 ≤ 1 - d ^ 2 := by nlinarith
  have sine : √(1 - (s + t * d) ^ 2) = t * √(1 - d ^ 2) := by
    have square : 1 - (s + t * d) ^ 2 = t ^ 2 * (1 - d ^ 2) := by linear_combination -one
    rw [square, Real.sqrt_mul (sq_nonneg t), Real.sqrt_sq ht]
  have cosine : √(1 - (s * d + t) ^ 2) = s * √(1 - d ^ 2) := by
    have square : 1 - (s * d + t) ^ 2 = s ^ 2 * (1 - d ^ 2) := by linear_combination -one
    rw [square, Real.sqrt_mul (sq_nonneg s), Real.sqrt_sq hs]
  have first : 0 ≤ s + t * d := by positivity
  have second : 0 ≤ s * d + t := by positivity
  have firstHigh : s + t * d ≤ 1 := by nlinarith [mul_nonneg (sq_nonneg t) apart]
  have secondHigh : s * d + t ≤ 1 := by nlinarith [mul_nonneg (sq_nonneg s) apart]
  have sum : Real.cos (Real.arccos (s + t * d) + Real.arccos (s * d + t)) = d := by
    rw [Real.cos_add, Real.cos_arccos (by linarith) firstHigh,
      Real.cos_arccos (by linarith) secondHigh, Real.sin_arccos, Real.sin_arccos, sine, cosine]
    linear_combination d * one - s * t * Real.mul_self_sqrt apart
  have low := add_nonneg (Real.arccos_nonneg (s + t * d)) (Real.arccos_nonneg (s * d + t))
  have high : Real.arccos (s + t * d) + Real.arccos (s * d + t) ≤ Real.pi := by
    have one := Real.arccos_le_pi_div_two.mpr first
    have two := Real.arccos_le_pi_div_two.mpr second
    linarith
  rw [← Real.arccos_cos low high, sum]

theorem scale_combination (a b : Quaternion ℝ) (r s t : ℝ) :
    r * (s * a + t * b) = (r * s) * a + (r * t) * b := by
  ext <;> simp only [Quaternion.add_def, Quaternion.scale_def] <;> ring

/-- Inside the interval `Slerp` weighs the ends by numbers that are not negative. -/
theorem slerp_weights (ha : a.IsUnit) (hb : b.IsUnit) (low : 0 ≤ t) (high : t ≤ 1) :
    ∃ u v : ℝ, 0 ≤ u ∧ 0 ≤ v ∧ slerp realLibrary a b t = u * a + v * nearer a b := by
  rcases slerp_cases ha hb t with ⟨_, chord⟩ | ⟨distant, arc⟩
  · rw [chord, normalize_eq, scale_combination]
    refine ⟨_, _, mul_nonneg ?_ (sub_nonneg.mpr high), mul_nonneg ?_ low, rfl⟩ <;> positivity
  · have sine := sin_arccos_pos (abs_nonneg _) distant
    have angle := Real.arccos_nonneg |dotProduct a b|
    have half := Real.arccos_le_pi |dotProduct a b|
    have part : Real.arccos |dotProduct a b| * t ≤ Real.arccos |dotProduct a b| :=
      mul_le_of_le_one_right angle high
    have start := mul_nonneg angle low
    rw [arc, arcPoint_eq sine.ne']
    refine ⟨_, _, div_nonneg ?_ sine.le, div_nonneg ?_ sine.le, rfl⟩
    · exact Real.sin_nonneg_of_nonneg_of_le_pi (by linarith) (by linarith)
    · exact Real.sin_nonneg_of_nonneg_of_le_pi start (by linarith)

/-- How an interpolated rotation divides the turn from one rotation to another. -/
structure DividesTurn (lib : AngleLibrary ℝ) (a b : Quaternion ℝ) (t : ℝ) (r : Quaternion ℝ) :
    Prop where
  adds : (~~~a * r).toAngle lib + (~~~r * b).toAngle lib = (~~~a * b).toAngle lib
  steady : |dotProduct a b| ≤ 1 - 1 / 10000 →
    (~~~a * r).toAngle lib = t * (~~~a * b).toAngle lib

/-- Inside the interval `Slerp` divides the turn between its ends, in proportion to `t` unless
they are close. -/
theorem slerp_dividesTurn (ha : a.IsUnit) (hb : b.IsUnit) (low : 0 ≤ t) (high : t ≤ 1) :
    DividesTurn realAngles a b t (slerp realLibrary a b t) := by
  have hn : (nearer a b).IsUnit := nearer_isUnit hb
  have onArc := slerp_isOnShorterArc ha hb t
  have unit := onArc.unit
  have near : 0 ≤ dotProduct a (nearer a b) := by
    rw [dotProduct_nearer]
    exact abs_nonneg _
  obtain ⟨u, v, hu, hv, weights⟩ := slerp_weights ha hb low high
  constructor
  case adds =>
    rw [toAngle_relative ha unit, toAngle_relative unit hb, toAngle_relative ha hb,
      dotProduct_comm _ b, abs_dotProduct_right a b, weights]
    rw [weights] at unit
    have divided := arccos_add_arccos ha hn near hu hv unit
    rw [dotProduct_nearer] at divided
    have left : 0 ≤ dotProduct a (u * a + v * nearer a b) := by
      rw [dotProduct_combination, isUnit_iff_dotProduct.mp ha]
      positivity
    have right : 0 ≤ dotProduct (nearer a b) (u * a + v * nearer a b) := by
      rw [dotProduct_combination, isUnit_iff_dotProduct.mp hn, dotProduct_comm _ a]
      positivity
    rw [abs_of_nonneg left, abs_of_nonneg right, ← divided]
    ring
  case steady =>
    intro distant
    have start := mul_nonneg (Real.arccos_nonneg |dotProduct a b|) low
    have quarter := Real.arccos_le_pi_div_two.mpr (abs_nonneg (dotProduct a b))
    have part : Real.arccos |dotProduct a b| * t ≤ Real.arccos |dotProduct a b| :=
      mul_le_of_le_one_right (Real.arccos_nonneg _) high
    have cosine : 0 ≤ Real.cos (Real.arccos |dotProduct a b| * t) :=
      Real.cos_nonneg_of_neg_pi_div_two_le_of_le (by linarith) (by linarith)
    rw [toAngle_relative ha unit, toAngle_relative ha hb, onArc.steady distant,
      abs_of_nonneg cosine, Real.arccos_cos start (by linarith [Real.pi_pos])]
    ring

theorem slerp_dividesTurn_halfTurn :
    DividesTurn realAngles 1 ⟨0, 0, 0, 1⟩ (1 / 2)
      (slerp realLibrary 1 ⟨0, 0, 0, 1⟩ (1 / 2)) :=
  slerp_dividesTurn isUnit_one halfTurn_isUnit (by norm_num) (by norm_num)

end SpotSdk.Api
