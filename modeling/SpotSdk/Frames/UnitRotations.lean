import SpotSdk.Frames.PlanarPoses

/-!
# Interpolated rotations

In real arithmetic `Slerp` stays on the unit sphere, on the shorter arc between its
arguments and at constant speed, except that close rotations are joined by a chord. So a
buffer of poses with unit rotations answers every query with one.
-/

namespace SpotSdk.Api

variable {a b c : Quaternion ℝ} {s t : ℝ}

/-! ## The inner product -/

theorem isUnit_iff_dotProduct : a.IsUnit ↔ dotProduct a a = 1 := by
  rw [Quaternion.IsUnit, dotProduct]
  constructor
  · intro unit
    linear_combination unit
  · intro unit
    linear_combination unit

theorem dotProduct_comm (a b : Quaternion ℝ) : dotProduct a b = dotProduct b a := by
  simp only [dotProduct]
  ring

theorem dotProduct_add (a b c : Quaternion ℝ) :
    dotProduct a (b + c) = dotProduct a b + dotProduct a c := by
  simp only [dotProduct, Quaternion.add_def]
  ring

theorem dotProduct_smul (a b : Quaternion ℝ) (s : ℝ) :
    dotProduct a (s * b) = s * dotProduct a b := by
  simp only [dotProduct, Quaternion.scale_def]
  ring

theorem dotProduct_neg (a b : Quaternion ℝ) : dotProduct a (-b) = -dotProduct a b := by
  simp only [dotProduct, Quaternion.neg_def]
  ring

/-- The products of a combination of two rotations with each of them. -/
theorem dotProduct_combination (a b c : Quaternion ℝ) (s t : ℝ) :
    dotProduct c (s * a + t * b) = s * dotProduct c a + t * dotProduct c b := by
  rw [dotProduct_add, dotProduct_smul, dotProduct_smul]

theorem abs_dotProduct_le (ha : a.IsUnit) (hb : b.IsUnit) : |dotProduct a b| ≤ 1 := by
  rw [Quaternion.IsUnit] at ha hb
  rw [abs_le, dotProduct]
  constructor
  · nlinarith [mul_self_nonneg (a.x + b.x), mul_self_nonneg (a.y + b.y),
      mul_self_nonneg (a.z + b.z), mul_self_nonneg (a.w + b.w)]
  · nlinarith [mul_self_nonneg (a.x - b.x), mul_self_nonneg (a.y - b.y),
      mul_self_nonneg (a.z - b.z), mul_self_nonneg (a.w - b.w)]

theorem halfTurn_isUnit : (⟨0, 0, 0, 1⟩ : Quaternion ℝ).IsUnit := by
  rw [Quaternion.IsUnit]
  norm_num

/-! ## The shorter path -/

/-- Of the two quaternions of the second rotation, the one nearer to the first. -/
noncomputable def nearer (a b : Quaternion ℝ) : Quaternion ℝ :=
  if dotProduct a b < 0 then -b else b

theorem dotProduct_nearer : dotProduct a (nearer a b) = |dotProduct a b| := by
  unfold nearer
  split
  · next negative => rw [dotProduct_neg, abs_of_neg negative]
  · next nonnegative => rw [abs_of_nonneg (not_lt.mp nonnegative)]

theorem nearer_isUnit (hb : b.IsUnit) : (nearer a b).IsUnit := by
  unfold nearer
  split
  · rw [isUnit_iff_dotProduct, dotProduct_neg, dotProduct_comm, dotProduct_neg, neg_neg]
    exact isUnit_iff_dotProduct.mp hb
  · exact hb

/-- `Slerp` over the nearer quaternion. -/
theorem slerp_eq : slerp realLibrary a b t =
    if |dotProduct a b| > 1 - 1 / 10000 then
      normalize realLibrary (a + t * (nearer a b - a))
    else
      (Real.cos (Real.arccos |dotProduct a b| * t) - |dotProduct a b| *
          Real.sin (Real.arccos |dotProduct a b| * t) /
            Real.sin (Real.arccos |dotProduct a b|)) * a +
        (Real.sin (Real.arccos |dotProduct a b| * t) /
          Real.sin (Real.arccos |dotProduct a b|)) * nearer a b := by
  have dot : (if dotProduct a b < 0 then -dotProduct a b else dotProduct a b) =
      |dotProduct a b| := by
    split
    · next negative => rw [abs_of_neg negative]
    · next nonnegative => rw [abs_of_nonneg (not_lt.mp nonnegative)]
  rw [slerp]
  simp only [dot]
  rfl

/-! ## Close rotations -/

theorem add_comm_quaternion (a b : Quaternion ℝ) : a + b = b + a := by
  ext <;> simp only [Quaternion.add_def, add_comm]

theorem chord_eq (a b : Quaternion ℝ) (t : ℝ) : a + t * (b - a) = (1 - t) * a + t * b := by
  ext <;> simp only [Quaternion.add_def, Quaternion.sub_def, Quaternion.scale_def] <;> ring

theorem normalize_eq (q : Quaternion ℝ) :
    normalize realLibrary q = (1 / √(dotProduct q q)) * q := rfl

/-- A quaternion that is not zero is normalized to a unit. -/
theorem normalize_isUnit (nonzero : 0 < dotProduct a a) :
    (normalize realLibrary a).IsUnit := by
  rw [isUnit_iff_dotProduct, normalize_eq, dotProduct_smul,
    dotProduct_comm ((1 / √(dotProduct a a)) * a) a, dotProduct_smul]
  have square := Real.mul_self_sqrt nonzero.le
  have root := Real.sqrt_pos.mpr nonzero
  generalize √(dotProduct a a) = r at square root
  rw [← square]
  field_simp

/-- The chord between unit quaternions that are not opposite misses zero. -/
theorem dotProduct_chord (ha : a.IsUnit) (hb : b.IsUnit) (t : ℝ) :
    dotProduct ((1 - t) * a + t * b) ((1 - t) * a + t * b) =
      1 - 2 * t * (1 - t) * (1 - dotProduct a b) := by
  rw [isUnit_iff_dotProduct] at ha hb
  rw [dotProduct_combination, dotProduct_comm _ a, dotProduct_comm _ b, dotProduct_combination,
    dotProduct_combination, ha, hb, dotProduct_comm b a]
  ring

theorem chord_pos (ha : a.IsUnit) (hb : b.IsUnit) (close : 0 ≤ dotProduct a b) (t : ℝ) :
    0 < dotProduct ((1 - t) * a + t * b) ((1 - t) * a + t * b) := by
  have bound := (abs_le.mp (abs_dotProduct_le ha hb)).2
  rw [dotProduct_chord ha hb]
  nlinarith [mul_self_nonneg (2 * t - 1), mul_nonneg close (mul_self_nonneg (2 * t - 1))]

/-- What lies on the chord is no farther from either end than the other end. -/
theorem normalized_chord_between (ha : a.IsUnit) (hb : b.IsUnit) (close : 0 ≤ dotProduct a b)
    (low : 0 ≤ t) (high : t ≤ 1) :
    dotProduct a b ≤ dotProduct a (normalize realLibrary ((1 - t) * a + t * b)) := by
  have bound := (abs_le.mp (abs_dotProduct_le ha hb)).2
  have positive := chord_pos ha hb close t
  have short : √(dotProduct ((1 - t) * a + t * b) ((1 - t) * a + t * b)) ≤ 1 := by
    rw [Real.sqrt_le_one, dotProduct_chord ha hb]
    nlinarith [mul_nonneg (mul_nonneg low (sub_nonneg.mpr high)) (sub_nonneg.mpr bound)]
  have root := Real.sqrt_pos.mpr positive
  have product : dotProduct a ((1 - t) * a + t * b) = 1 - t + t * dotProduct a b := by
    rw [dotProduct_combination, isUnit_iff_dotProduct.mp ha, mul_one]
  rw [normalize_eq, dotProduct_smul, product, one_div, ← div_eq_inv_mul, le_div_iff₀ root]
  have part : dotProduct a b ≤ 1 - t + t * dotProduct a b := by
    nlinarith [mul_nonneg (sub_nonneg.mpr high) (sub_nonneg.mpr bound)]
  exact (mul_le_of_le_one_right close short).trans part

/-! ## Rotations that are apart -/

/-- The combination that `Slerp` makes of two unit quaternions with an angle between them. -/
noncomputable def arcPoint (a b : Quaternion ℝ) (angle0 angle : ℝ) : Quaternion ℝ :=
  (Real.cos angle - Real.cos angle0 * Real.sin angle / Real.sin angle0) * a +
    (Real.sin angle / Real.sin angle0) * b

section Arc

variable {angle0 : ℝ} (ha : a.IsUnit) (hb : b.IsUnit)
  (between : dotProduct a b = Real.cos angle0) (apart : Real.sin angle0 ≠ 0) (angle : ℝ)

include ha between in
theorem dotProduct_arcPoint_left : dotProduct a (arcPoint a b angle0 angle) = Real.cos angle := by
  rw [arcPoint, dotProduct_combination, isUnit_iff_dotProduct.mp ha, between]
  ring

include hb between apart in
theorem dotProduct_arcPoint_right :
    dotProduct b (arcPoint a b angle0 angle) = Real.cos (angle0 - angle) := by
  have square := Real.sin_sq_add_cos_sq angle0
  rw [arcPoint, dotProduct_combination, isUnit_iff_dotProduct.mp hb, dotProduct_comm b a, between,
    Real.cos_sub]
  field_simp
  linear_combination -Real.sin angle * square

include ha hb between apart in
theorem arcPoint_isUnit : (arcPoint a b angle0 angle).IsUnit := by
  have square := Real.sin_sq_add_cos_sq angle
  have left := dotProduct_arcPoint_left ha between angle
  have right := dotProduct_arcPoint_right hb between apart angle
  rw [isUnit_iff_dotProduct]
  conv_lhs => rw [arcPoint, dotProduct_combination, dotProduct_comm _ a, dotProduct_comm _ b]
  rw [← arcPoint, left, right, Real.cos_sub]
  field_simp
  linear_combination Real.sin angle0 * square

end Arc

/-! ## The whole of Slerp -/

/-- Rotations that are not close have an angle whose sine does not vanish. -/
theorem sin_arccos_pos {dot : ℝ} (low : 0 ≤ dot) (high : dot ≤ 1 - 1 / 10000) :
    0 < Real.sin (Real.arccos dot) := by
  rw [Real.sin_arccos, Real.sqrt_pos]
  nlinarith

theorem cos_arccos_abs (ha : a.IsUnit) (hb : b.IsUnit) :
    Real.cos (Real.arccos |dotProduct a b|) = |dotProduct a b| := by
  have low := abs_nonneg (dotProduct a b)
  exact Real.cos_arccos (by linarith) (abs_dotProduct_le ha hb)

/-- `Slerp` is a point of the chord or of the arc. -/
theorem slerp_cases (ha : a.IsUnit) (hb : b.IsUnit) (t : ℝ) :
    (1 - 1 / 10000 < |dotProduct a b| ∧
      slerp realLibrary a b t = normalize realLibrary ((1 - t) * a + t * nearer a b)) ∨
    (|dotProduct a b| ≤ 1 - 1 / 10000 ∧
      slerp realLibrary a b t =
        arcPoint a (nearer a b) (Real.arccos |dotProduct a b|)
          (Real.arccos |dotProduct a b| * t)) := by
  rw [slerp_eq]
  split
  · next close => exact .inl ⟨close, by rw [chord_eq]⟩
  · next distant => exact .inr ⟨not_lt.mp distant, by rw [arcPoint, cos_arccos_abs ha hb]⟩

/-- A point between the ends of an arc is no farther from an end than the other end. -/
theorem cos_le_cos_part {angle0 : ℝ} (low : 0 ≤ angle0) (high : angle0 ≤ Real.pi)
    (first : 0 ≤ t) (last : t ≤ 1) : Real.cos angle0 ≤ Real.cos (angle0 * t) := by
  apply Real.cos_le_cos_of_nonneg_of_le_pi (mul_nonneg low first) high
  exact mul_le_of_le_one_right low last

/-- What `Slerp` gives at `t` of the way from one rotation to another. -/
structure OnShorterArc (a b : Quaternion ℝ) (t : ℝ) (r : Quaternion ℝ) : Prop where
  unit : r.IsUnit
  start : t = 0 → r = a
  finish : t = 1 → r = b ∨ r = -b
  /-- Inside the interval the result is as near to either end as the ends are. -/
  between : 0 ≤ t → t ≤ 1 →
    |dotProduct a b| ≤ dotProduct a r ∧ |dotProduct a b| ≤ |dotProduct b r|
  /-- Between rotations that are not close the angle is proportional to `t`. -/
  steady : |dotProduct a b| ≤ 1 - 1 / 10000 →
    dotProduct a r = Real.cos (Real.arccos |dotProduct a b| * t)

theorem nearer_eq_or (a b : Quaternion ℝ) : nearer a b = b ∨ nearer a b = -b := by
  unfold nearer
  split
  · exact .inr rfl
  · exact .inl rfl

/-- The product with the nearer quaternion, up to its sign. -/
theorem abs_dotProduct_right (a b r : Quaternion ℝ) :
    |dotProduct b r| = |dotProduct (nearer a b) r| := by
  rcases nearer_eq_or a b with same | negated
  · rw [same]
  · rw [negated, dotProduct_comm (-b), dotProduct_neg, abs_neg, dotProduct_comm]

theorem combination_first (a b : Quaternion ℝ) : (1 : ℝ) * a + (0 : ℝ) * b = a := by
  ext <;> simp [Quaternion.add_def, Quaternion.scale_def]

theorem combination_second (a b : Quaternion ℝ) : (0 : ℝ) * a + (1 : ℝ) * b = b := by
  ext <;> simp [Quaternion.add_def, Quaternion.scale_def]

theorem normalize_of_isUnit (ha : a.IsUnit) : normalize realLibrary a = a := by
  rw [normalize_eq, isUnit_iff_dotProduct.mp ha, Real.sqrt_one, div_one]
  ext <;> simp only [Quaternion.scale_def, mul_one]

theorem chord_onShorterArc (ha : a.IsUnit) (hb : b.IsUnit)
    (close : 1 - 1 / 10000 < |dotProduct a b|) (t : ℝ) :
    OnShorterArc a b t (normalize realLibrary ((1 - t) * a + t * nearer a b)) := by
  have hn : (nearer a b).IsUnit := nearer_isUnit hb
  have toward : 0 ≤ dotProduct a (nearer a b) := by
    rw [dotProduct_nearer]
    exact abs_nonneg _
  constructor
  case unit => exact normalize_isUnit (chord_pos ha hn toward t)
  case start =>
    rintro rfl
    rw [sub_zero, combination_first, normalize_of_isUnit ha]
  case finish =>
    rintro rfl
    rw [sub_self, combination_second, normalize_of_isUnit hn]
    exact nearer_eq_or a b
  case between =>
    intro low high
    have left := normalized_chord_between ha hn toward low high
    have back := normalized_chord_between hn ha (by rwa [dotProduct_comm])
      (sub_nonneg.mpr high) (sub_le_self 1 low)
    rw [sub_sub_cancel, dotProduct_comm _ a, dotProduct_nearer] at back
    rw [dotProduct_nearer] at left
    refine ⟨left, ?_⟩
    rw [abs_dotProduct_right a b, add_comm_quaternion]
    exact back.trans (le_abs_self _)
  case steady =>
    intro distant
    exact absurd close (not_lt.mpr distant)

theorem arc_onShorterArc (ha : a.IsUnit) (hb : b.IsUnit)
    (distant : |dotProduct a b| ≤ 1 - 1 / 10000) (t : ℝ) :
    OnShorterArc a b t
      (arcPoint a (nearer a b) (Real.arccos |dotProduct a b|)
        (Real.arccos |dotProduct a b| * t)) := by
  have hn : (nearer a b).IsUnit := nearer_isUnit hb
  have cosine := cos_arccos_abs ha hb
  have apart := (sin_arccos_pos (abs_nonneg _) distant).ne'
  have low := Real.arccos_nonneg |dotProduct a b|
  have high := Real.arccos_le_pi |dotProduct a b|
  have toward : dotProduct a (nearer a b) = Real.cos (Real.arccos |dotProduct a b|) := by
    rw [dotProduct_nearer, cosine]
  have left := dotProduct_arcPoint_left ha toward
  have right := dotProduct_arcPoint_right hn toward apart
  constructor
  case unit => exact arcPoint_isUnit ha hn toward apart _
  case start =>
    rintro rfl
    rw [mul_zero, arcPoint, Real.cos_zero, Real.sin_zero, mul_zero, zero_div, sub_zero,
      combination_first]
  case finish =>
    rintro rfl
    rw [mul_one, arcPoint, div_self apart, mul_div_assoc, div_self apart, mul_one, sub_self,
      combination_second]
    exact nearer_eq_or a b
  case between =>
    intro first last
    rw [left, abs_dotProduct_right a b, right]
    have after := cos_le_cos_part low high first last
    have before := cos_le_cos_part low high (sub_nonneg.mpr last) (sub_le_self 1 first)
    rw [cosine] at after before
    refine ⟨after, le_trans ?_ (le_abs_self _)⟩
    rwa [mul_sub, mul_one] at before
  case steady => exact fun _ => left _

theorem slerp_isOnShorterArc (ha : a.IsUnit) (hb : b.IsUnit) (t : ℝ) :
    OnShorterArc a b t (slerp realLibrary a b t) := by
  rcases slerp_cases ha hb t with ⟨close, chord⟩ | ⟨distant, arc⟩
  · rw [chord]
    exact chord_onShorterArc ha hb close t
  · rw [arc]
    exact arc_onShorterArc ha hb distant t

/-! ## The way back -/

/-- The weights of the two ends of an arc. -/
theorem arcPoint_eq {angle0 : ℝ} (apart : Real.sin angle0 ≠ 0) (angle : ℝ) :
    arcPoint a b angle0 angle =
      (Real.sin (angle0 - angle) / Real.sin angle0) * a +
        (Real.sin angle / Real.sin angle0) * b := by
  have weight : Real.cos angle - Real.cos angle0 * Real.sin angle / Real.sin angle0 =
      Real.sin (angle0 - angle) / Real.sin angle0 := by
    rw [Real.sin_sub]
    field_simp
  rw [arcPoint, weight]

/-- Turning both ends of a combination over turns the combination over. -/
theorem combination_neg (a b : Quaternion ℝ) (s t : ℝ) :
    s * a + t * -b = -(t * b + s * -a) := by
  ext <;> simp only [Quaternion.add_def, Quaternion.neg_def, Quaternion.scale_def] <;> ring

theorem dotProduct_neg_neg (a b : Quaternion ℝ) : dotProduct (-a) (-b) = dotProduct a b := by
  rw [dotProduct_neg, dotProduct_comm, dotProduct_neg, neg_neg, dotProduct_comm]

theorem normalize_neg (a : Quaternion ℝ) :
    normalize realLibrary (-a) = -normalize realLibrary a := by
  rw [normalize_eq, normalize_eq, dotProduct_neg_neg]
  ext <;> simp only [Quaternion.neg_def, Quaternion.scale_def, neg_mul]

/-- With the ends exchanged the nearer quaternions make the same combination, up to sign. -/
theorem combination_nearer (a b : Quaternion ℝ) (s t : ℝ) :
    s * a + t * nearer a b = t * b + s * nearer b a ∨
      s * a + t * nearer a b = -(t * b + s * nearer b a) := by
  unfold nearer
  rw [dotProduct_comm b a]
  split
  · exact .inr (combination_neg a b s t)
  · exact .inl (add_comm_quaternion _ _)

/-- The way back passes the same rotations. -/
theorem slerp_back (ha : a.IsUnit) (hb : b.IsUnit) (t : ℝ) :
    slerp realLibrary a b t = slerp realLibrary b a (1 - t) ∨
      slerp realLibrary a b t = -slerp realLibrary b a (1 - t) := by
  rcases slerp_cases ha hb t with ⟨close, there⟩ | ⟨distant, there⟩ <;>
    rcases slerp_cases hb ha (1 - t) with ⟨close', back⟩ | ⟨distant', back⟩ <;>
    rw [dotProduct_comm b a] at *
  · rw [there, back, sub_sub_cancel]
    rcases combination_nearer a b (1 - t) t with same | negated
    · exact .inl (congrArg _ same)
    · exact .inr (by rw [negated, normalize_neg])
  · exact absurd close (not_lt.mpr distant')
  · exact absurd close' (not_lt.mpr distant)
  · have apart := (sin_arccos_pos (abs_nonneg _) distant).ne'
    rw [there, back, arcPoint_eq apart, arcPoint_eq apart, mul_sub, mul_one, sub_sub_cancel]
    exact combination_nearer a b _ _

/-- Between unit quaternions `Slerp` gives unit quaternions along the shorter arc, and the
same rotations on the way back. -/
theorem slerp_onShorterArc (ha : a.IsUnit) (hb : b.IsUnit) (t : ℝ) :
    OnShorterArc a b t (slerp realLibrary a b t) ∧
      (slerp realLibrary a b t = slerp realLibrary b a (1 - t) ∨
        slerp realLibrary a b t = -slerp realLibrary b a (1 - t)) :=
  ⟨slerp_isOnShorterArc ha hb t, slerp_back ha hb t⟩

/-- A quarter turn about the vertical axis is halfway to a half turn. -/
theorem slerp_onShorterArc_turn :
    OnShorterArc (1 : Quaternion ℝ) ⟨0, 0, 0, 1⟩ (1 / 2)
        (slerp realLibrary 1 ⟨0, 0, 0, 1⟩ (1 / 2)) ∧
      (slerp realLibrary (1 : Quaternion ℝ) ⟨0, 0, 0, 1⟩ (1 / 2) =
          slerp realLibrary ⟨0, 0, 0, 1⟩ 1 (1 - 1 / 2) ∨
        slerp realLibrary (1 : Quaternion ℝ) ⟨0, 0, 0, 1⟩ (1 / 2) =
          -slerp realLibrary ⟨0, 0, 0, 1⟩ 1 (1 - 1 / 2)) := by
  exact slerp_onShorterArc Quaternion.isUnit_one halfTurn_isUnit (1 / 2)

/-! ## Buffers -/

section Buffer

variable {maxPoses : Nat} {calls : List (TimedPose ℝ)} {timestamp : Int64}

/-- The entries of a buffer were given to `MaybeAddPose`. -/
theorem mem_calls_of_mem_accepted (maxPoses : Nat) (calls : List (TimedPose ℝ)) :
    ∀ entry ∈ (addPoses maxPoses calls).2, entry ∈ calls := by
  induction calls using List.reverseRecOn with
  | nil => exact fun _ h => h
  | append_singleton calls call ih =>
    have step : addPoses maxPoses (calls ++ [call]) =
        addCall maxPoses (addPoses maxPoses calls) call := by
      simp only [addPoses, List.foldl_append, List.foldl_cons, List.foldl_nil]
    intro entry member
    rw [step, addCall] at member
    dsimp only at member
    split at member
    · rcases List.mem_append.mp member with before | added
      · exact List.mem_append_left _ (ih entry before)
      · exact List.mem_append_right _ added
    · exact List.mem_append_left _ (ih entry member)

theorem mem_calls_of_mem_buffer :
    ∀ entry ∈ (addPoses maxPoses calls).1, entry ∈ calls := by
  intro entry member
  rw [(buffered_addPoses maxPoses calls).newest] at member
  exact mem_calls_of_mem_accepted maxPoses calls entry (List.mem_of_mem_drop member)

/-- The factor lies in the unit interval, even where the differences overflow. -/
theorem FactorBetween.mem {a b : TimedPose ℝ} {t : ℝ} (h : FactorBetween a b timestamp t) :
    0 ≤ t ∧ t ≤ 1 := by
  by_cases fits : DifferenceFits a.timestamp b.timestamp
  · obtain ⟨low, high, _⟩ := h.fits fits
    exact ⟨low.le, high.le⟩
  · rw [h.overflows fits]
    exact ⟨le_min (le_max_right _ _) zero_le_one, min_le_right _ _⟩

/-- The distance of a point along a direction. -/
def along (n p : Vec3 ℝ) : ℝ := n.x * p.x + n.y * p.y + n.z * p.z

theorem along_lerp (n p q : Vec3 ℝ) (t : ℝ) :
    along n (lerp p q t) = along n p * (1 - t) + along n q * t := by
  change n.x * (p.x * (1 - t) + q.x * t) + n.y * (p.y * (1 - t) + q.y * t) +
    n.z * (p.z * (1 - t) + q.z * t) = _
  simp only [along]
  ring

/-- A pose with a unit rotation and a position in a half space. -/
def Within (n : Vec3 ℝ) (d : ℝ) (pose : SE3Pose ℝ) : Prop :=
  pose.rotation.IsUnit ∧ along n pose.position ≤ d

theorem interp_within {n : Vec3 ℝ} {d t : ℝ} {a b : SE3Pose ℝ} (ha : Within n d a)
    (hb : Within n d b) (low : 0 ≤ t) (high : t ≤ 1) : Within n d (interp realLibrary a b t) := by
  refine ⟨(slerp_isOnShorterArc ha.1 hb.1 _).unit, ?_⟩
  have position : (interp realLibrary a b t).position = lerp a.position b.position t := rfl
  rw [position, along_lerp]
  nlinarith [mul_le_mul_of_nonneg_right ha.2 (sub_nonneg.mpr high),
    mul_le_mul_of_nonneg_right hb.2 low]

/-- An answer is an entry, or lies between two entries. -/
theorem LooksUp.within {n : Vec3 ℝ} {d : ℝ} {buffer : PoseBuffer ℝ} {result : PoseLookupResult}
    {pose : SE3Pose ℝ} (entries : ∀ entry ∈ buffer, Within n d entry.pose)
    (looked : LooksUp realLibrary buffer timestamp result (some pose)) : Within n d pose := by
  cases looked with
  | found member => exact entries _ member
  | tooOld h => exact entries _ (by simp [h])
  | tooNew h => exact entries _ (by simp [h])
  | between h after before factor =>
      obtain ⟨low, high⟩ := factor.mem
      exact interp_within (entries _ (by simp [h])) (entries _ (by simp [h])) low high

/-- Whatever poses with unit rotations are added, and whatever half spaces their positions
lie in: a query is answered with a unit rotation and a position in the same half spaces. -/
theorem lookup_stays_within (units : ∀ call ∈ calls, call.pose.rotation.IsUnit)
    {result : PoseLookupResult} {pose : SE3Pose ℝ}
    (answer : lookup realLibrary (addPoses maxPoses calls).1 timestamp =
      some (result, some pose)) :
    pose.rotation.IsUnit ∧
      ∀ n d, (∀ call ∈ calls, along n call.pose.position ≤ d) → along n pose.position ≤ d := by
  have increasing := (buffered_addPoses maxPoses calls).increasing
  have looked := (lookup_eq_some_iff increasing).mp answer
  have inside : ∀ n d, (∀ call ∈ calls, along n call.pose.position ≤ d) → Within n d pose := by
    intro n d bounded
    apply looked.within
    intro entry member
    have call := mem_calls_of_mem_buffer entry member
    exact ⟨units entry call, bounded entry call⟩
  constructor
  · refine (inside ⟨0, 0, 0⟩ 0 ?_).1
    intro call _
    simp [along]
  · exact fun n d bounded => (inside n d bounded).2

end Buffer

/-- The origin. -/
def departure : TimedPose ℝ := ⟨0, ⟨⟨0, 0, 0⟩, 1⟩⟩

/-- A turned pose ahead of the origin, ten nanoseconds later. -/
def arrival : TimedPose ℝ := ⟨10, ⟨⟨1, 0, 0⟩, ⟨0, 0, 0, 1⟩⟩⟩

theorem lookup_stays_within_arrival :
    (interpTimed realLibrary departure arrival 5).rotation.IsUnit ∧
      ∀ n d, (∀ call ∈ [departure, arrival], along n call.pose.position ≤ d) →
        along n (interpTimed realLibrary departure arrival 5).position ≤ d := by
  have units : ∀ call ∈ [departure, arrival], call.pose.rotation.IsUnit := by
    intro call member
    rcases List.mem_cons.mp member with rfl | member
    · exact Quaternion.isUnit_one
    · obtain rfl := List.mem_singleton.mp member
      exact halfTurn_isUnit
  have buffer : (addPoses 2 [departure, arrival]).1 = [] ++ departure :: arrival :: [] := rfl
  have increasing := (buffered_addPoses 2 [departure, arrival]).increasing
  have after : departure.timestamp < 5 := by decide
  have before : 5 < arrival.timestamp := by decide
  have factor := interpolationFactor_factorBetween after before
  have answer : lookup realLibrary (addPoses 2 [departure, arrival]).1 5 = _ :=
    (lookup_eq_some_iff increasing).mpr (.between buffer after before factor)
  exact lookup_stays_within units answer

end SpotSdk.Api
