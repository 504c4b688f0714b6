import SpotSdk.Frames.PlanarPoses

/-!
# Velocities in other frames

`ExpressVelocityInNewFrame` transforms a velocity by the adjoint of the pose between two
frames. The adjoint ignores that `ToMatrix` refuses rotations whose norm is not close to
one, and the norms of the edges on the way multiply up.
-/

namespace SpotSdk.Api

variable {K : Type*}

section Velocity

variable [Field K] [LinearOrder K]

/-- `ExpressVelocityInNewFrame` for an `SE3Velocity`: the velocity, or nothing when it
returns false. Absent when the pose is. The matrix that is local to `Adjoint` holds
`unassigned` when it is declared. -/
def expressVelocityInNewFrame (lib : MathLibrary K) (unassigned : Matrix (Fin 3) (Fin 3) K)
    (snapshot : FrameTreeSnapshot K) (frameB frameC : String) (velOfAInB : SE3Velocity K) :
    Option (Option (SE3Velocity K)) :=
  match snapshot.getATformB frameC frameB with
  | none => none
  | some none => some none
  | some (some se3CTformB) =>
      some (some (velOfAInB.transform (se3CTformB.adjoint lib unassigned)))

/-- A velocity that is returned is the adjoint of `c_tform_b` applied to the input. It is
computed from an assigned matrix and depends on nothing but the inputs. -/
structure ExpressesVelocity (lib : MathLibrary K) (snapshot : FrameTreeSnapshot K)
    (frameB frameC : String) (velOfAInB : SE3Velocity K) : Prop where
  inputsAlone : ∀ unassigned unassigned' : Matrix (Fin 3) (Fin 3) K,
    expressVelocityInNewFrame lib unassigned snapshot frameB frameC velOfAInB =
      expressVelocityInNewFrame lib unassigned' snapshot frameB frameC velOfAInB
  adjoint : ∀ unassigned output,
    expressVelocityInNewFrame lib unassigned snapshot frameB frameC velOfAInB =
      some (some output) →
    ∃ cTformB cRb, snapshot.getATformB frameC frameB = some (some cTformB) ∧
      cTformB.rotation.toMatrix lib = some cRb ∧
      output = velOfAInB.transform (adjointBlocks cTformB.position cRb)

end Velocity

/-! ## Norms along paths -/

section Paths

variable [CommRing K] {snapshot : FrameTreeSnapshot K} {a b : String} {pose : SE3Pose K}

/-- The product of the squared norms of the rotations on a path. -/
def pathNormSq (path : List (ParentEdge K)) : K :=
  (path.map fun edge => edge.tform.rotation.normSq).prod

theorem normSq_mul (p q : Quaternion K) : (p * q).normSq = p.normSq * q.normSq := by
  simp only [Quaternion.normSq, Quaternion.mul_w, Quaternion.mul_x, Quaternion.mul_y,
    Quaternion.mul_z]
  ring

theorem normSq_conj (q : Quaternion K) : (~~~q).normSq = q.normSq := by
  simp [Quaternion.normSq]

theorem normSq_accumulateTransforms (path : List (ParentEdge K)) :
    (accumulateTransforms path).rotation.normSq = pathNormSq path := by
  induction path with
  | nil =>
      change (1 : Quaternion K).normSq = 1
      simp [Quaternion.normSq]
  | cons edge path ih =>
      rw [accumulateTransforms_cons, SE3Pose.mul_rotation, normSq_mul, ih, mul_comm]
      exact List.prod_cons.symm

theorem normSq_relative (inverseEdges forwardEdges : List (ParentEdge K)) :
    (~~~accumulateTransforms inverseEdges * accumulateTransforms forwardEdges).rotation.normSq =
      pathNormSq inverseEdges * pathNormSq forwardEdges := by
  rw [SE3Pose.mul_rotation, SE3Pose.inv_rotation, normSq_mul, normSq_conj,
    normSq_accumulateTransforms, normSq_accumulateTransforms]

/-- A pose between two frames is returned exactly in a valid snapshot with both frames,
and it goes along the walks to the root. -/
theorem getATformB_eq_some_iff : snapshot.getATformB a b = some (some pose) ↔
    snapshot.validateFrameTreeSnapshot = some .valid ∧ a ∈ snapshot ∧ b ∈ snapshot ∧
      ∃ inverseEdges forwardEdges, snapshot.walkTreeToRoot a = some inverseEdges ∧
        snapshot.walkTreeToRoot b = some forwardEdges ∧
        pose = ~~~accumulateTransforms inverseEdges * accumulateTransforms forwardEdges := by
  have inTree (f : String) : snapshot.isFrameInTree f = true ↔ f ∈ snapshot :=
    AList.lookup_isSome
  rw [FrameTreeSnapshot.getATformB]
  constructor
  · intro h
    cases check : snapshot.validateFrameTreeSnapshot with
    | none => simp [check] at h
    | some status =>
        by_cases valid : status = .valid
        · subst valid
          by_cases ha : a ∈ snapshot
          · by_cases hb : b ∈ snapshot
            · simp only [check, (inTree a).mpr ha, (inTree b).mpr hb] at h
              cases up : snapshot.walkTreeToRoot a with
              | none => simp [up] at h
              | some es =>
                  cases down : snapshot.walkTreeToRoot b with
                  | none => simp [up, down] at h
                  | some fs =>
                      simp only [up, down] at h
                      refine ⟨rfl, ha, hb, es, fs, rfl, rfl, ?_⟩
                      simpa using h.symm
            · simp [check, (inTree a).mpr ha, Bool.eq_false_iff.mpr (mt (inTree b).mp hb)] at h
          · simp [check, Bool.eq_false_iff.mpr (mt (inTree a).mp ha)] at h
        · simp [check, valid] at h
  · rintro ⟨valid, ha, hb, es, fs, up, down, rfl⟩
    simp [valid, (inTree a).mpr ha, (inTree b).mpr hb, up, down]

end Paths

section Decided

variable [Field K] [LinearOrder K] {lib : MathLibrary K} {snapshot : FrameTreeSnapshot K}
  {frameB frameC : String} {velOfAInB : SE3Velocity K} {q : Quaternion K}

/-- In a valid snapshot with both frames, the square root of the product of the squared
norms of the rotations on the ways from them to the root is within a thousandth of one. -/
structure RotationsNearUnit (lib : MathLibrary K) (snapshot : FrameTreeSnapshot K)
    (frameB frameC : String) : Prop where
  near : snapshot.validateFrameTreeSnapshot = some .valid → frameB ∈ snapshot →
    frameC ∈ snapshot → ∀ inverseEdges forwardEdges,
      snapshot.walkTreeToRoot frameC = some inverseEdges →
        snapshot.walkTreeToRoot frameB = some forwardEdges →
          |lib.sqrt (pathNormSq inverseEdges * pathNormSq forwardEdges) - 1| ≤ 1 / 1000

theorem toMatrix_eq_some_iff {cRb : Matrix (Fin 3) (Fin 3) K} :
    q.toMatrix lib = some cRb ↔
      |lib.sqrt q.normSq - 1| ≤ 1 / 1000 ∧ q.toRotationMatrix = cRb := by
  rw [Quaternion.toMatrix, Quaternion.norm]
  by_cases far : |lib.sqrt q.normSq - 1| > 1 / 1000
  · rw [if_pos far]
    exact iff_of_false (Option.some_ne_none _).symm fun accepted => not_le.mpr far accepted.1
  · rw [if_neg far, Option.some.injEq]
    exact (and_iff_right (not_lt.mp far)).symm

theorem rotationsNearUnit_of_expressesVelocity
    (expresses : ExpressesVelocity lib snapshot frameB frameC velOfAInB) :
    RotationsNearUnit lib snapshot frameB frameC := by
  constructor
  intro valid hb hc es fs up down
  have relative := getATformB_eq_some_iff.mpr ⟨valid, hc, hb, es, fs, up, down, rfl⟩
  have returned : expressVelocityInNewFrame lib 0 snapshot frameB frameC velOfAInB =
      some (some (velOfAInB.transform
        ((~~~accumulateTransforms es * accumulateTransforms fs).adjoint lib 0))) := by
    rw [expressVelocityInNewFrame, relative]
  obtain ⟨pose, cRb, relative', assigned, _⟩ := expresses.adjoint 0 _ returned
  obtain rfl := Option.some.inj (Option.some.inj (relative.symm.trans relative'))
  rw [← normSq_relative]
  exact (toMatrix_eq_some_iff.mp assigned).1

theorem expressesVelocity_of_rotationsNearUnit
    (near : RotationsNearUnit lib snapshot frameB frameC) :
    ExpressesVelocity lib snapshot frameB frameC velOfAInB := by
  -- Wherever a pose is returned its rotation is accepted.
  have assigned : ∀ cTformB, snapshot.getATformB frameC frameB = some (some cTformB) →
      cTformB.rotation.toMatrix lib = some cTformB.rotation.toRotationMatrix := by
    intro cTformB relative
    obtain ⟨valid, hc, hb, es, fs, up, down, rfl⟩ := getATformB_eq_some_iff.mp relative
    apply toMatrix_eq_some_iff.mpr
    rw [normSq_relative]
    exact ⟨near.near valid hb hc es fs up down, rfl⟩
  have adjoint (unassigned : Matrix (Fin 3) (Fin 3) K) (cTformB : SE3Pose K)
      (relative : snapshot.getATformB frameC frameB = some (some cTformB)) :
      cTformB.adjoint lib unassigned =
        adjointBlocks cTformB.position cTformB.rotation.toRotationMatrix := by
    rw [SE3Pose.adjoint, assigned cTformB relative, Option.getD_some]
  constructor
  case inputsAlone =>
    intro unassigned unassigned'
    rw [expressVelocityInNewFrame, expressVelocityInNewFrame]
    cases relative : snapshot.getATformB frameC frameB with
    | none => rfl
    | some found =>
        cases found with
        | none => rfl
        | some cTformB =>
            simp only [adjoint unassigned cTformB relative, adjoint unassigned' cTformB relative]
  case adjoint =>
    intro unassigned output returned
    rw [expressVelocityInNewFrame] at returned
    cases relative : snapshot.getATformB frameC frameB with
    | none => simp [relative] at returned
    | some found =>
        cases found with
        | none => simp [relative] at returned
        | some cTformB =>
            simp only [relative, Option.some.injEq, adjoint unassigned cTformB relative]
              at returned
            exact ⟨cTformB, _, rfl, assigned cTformB relative, returned.symm⟩

/-- The velocity is expressed from its inputs exactly when the rotation between the frames
is close to a unit one. -/
theorem expressesVelocity_iff :
    ExpressesVelocity lib snapshot frameB frameC velOfAInB ↔
      RotationsNearUnit lib snapshot frameB frameC :=
  ⟨rotationsNearUnit_of_expressesVelocity, expressesVelocity_of_rotationsNearUnit⟩

end Decided

/-- A body whose rotation in the vision frame was never set. -/
def unsetRotation : FrameTreeSnapshot ℝ :=
  AList.insert "body" ⟨"vision", some ⟨⟨1, 0, 0⟩, ⟨0, 0, 0, 0⟩⟩⟩ (AList.singleton "vision" {})

/-- A velocity is returned for the body all the same, whatever the matrix held. -/
theorem not_expressesVelocity_unsetRotation :
    (∀ unassigned velOfAInB, ∃ output, expressVelocityInNewFrame realLibrary unassigned
        unsetRotation "body" "vision" velOfAInB = some (some output)) ∧
      ¬ ∀ (snapshot : FrameTreeSnapshot ℝ) (frameB frameC : String)
        (velOfAInB : SE3Velocity ℝ),
        ExpressesVelocity realLibrary snapshot frameB frameC velOfAInB := by
  have up : unsetRotation.walkTreeToRoot "vision" = some [] := rfl
  have down : unsetRotation.walkTreeToRoot "body" =
      some [⟨"vision", some ⟨⟨1, 0, 0⟩, ⟨0, 0, 0, 0⟩⟩⟩] := rfl
  have valid : unsetRotation.validateFrameTreeSnapshot = some .valid := rfl
  have body : "body" ∈ unsetRotation := AList.lookup_isSome.mp rfl
  have vision : "vision" ∈ unsetRotation := AList.lookup_isSome.mp rfl
  constructor
  · intro unassigned velOfAInB
    have relative := getATformB_eq_some_iff.mpr ⟨valid, vision, body, _, _, up, down, rfl⟩
    exact ⟨_, by rw [expressVelocityInNewFrame, relative]⟩
  · intro all
    have unit := rotationsNearUnit_of_expressesVelocity (all unsetRotation "body" "vision" ⟨0, 0⟩)
    have near := unit.near valid body vision _ _ up down
    have zero : pathNormSq [(⟨"vision", some ⟨⟨1, 0, 0⟩, ⟨0, 0, 0, 0⟩⟩⟩ : ParentEdge ℝ)] = 0 := by
      simp [pathNormSq, Quaternion.normSq, ParentEdge.tform]
    rw [zero, mul_zero] at near
    norm_num [realLibrary] at near

end SpotSdk.Api
