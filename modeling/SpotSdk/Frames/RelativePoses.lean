import Mathlib.Data.List.Induction
import SpotSdk.Frames.TreeValidation

/-!
# Poses of frames relative to each other

In a valid snapshot with unit rotations `get_a_tform_b` is defined on exactly the
frames of the tree, extends the poses of the edges and composes. It goes through the
root, but any frame above both gives the same transform.
-/

namespace SpotSdk.Api

open SpotSdk.Foundations

variable {R : Type*} [CommRing R]

/-! ## Inverses of unit rotations -/

namespace Quaternion

variable {p q : Quaternion R}

theorem conj_conj (q : Quaternion R) : ~~~(~~~q) = q := by
  ext <;> simp

theorem IsUnit.conj (h : q.IsUnit) : (~~~q).IsUnit := by
  simpa [IsUnit] using h

/-- The norm is multiplicative. -/
theorem IsUnit.mul (hp : p.IsUnit) (hq : q.IsUnit) : (p * q).IsUnit := by
  unfold IsUnit at *
  simp only [mul_w, mul_x, mul_y, mul_z]
  linear_combination (q.w * q.w + q.x * q.x + q.y * q.y + q.z * q.z) * hp + hq

end Quaternion

namespace SE3Pose

variable {a b c : SE3Pose R}

theorem inv_inv (h : a.rotation.IsUnit) : ~~~(~~~a) = a := by
  ext1
  · rw [inv_position, inv_position, inv_rotation, Quaternion.rotate_neg, neg_neg,
      Quaternion.conj_conj, ← Quaternion.mul_rotate]
    have cancel : a.rotation * ~~~a.rotation = 1 := by
      simpa [Quaternion.conj_conj] using Quaternion.conj_mul_cancel h.conj
    rw [cancel, Quaternion.one_rotate]
  · exact Quaternion.conj_conj _

theorem mul_inv_cancel (h : a.rotation.IsUnit) : a * ~~~a = 1 := by
  have cancel := inv_mul_cancel (a := ~~~a) h.conj
  rwa [inv_inv h] at cancel

/-- The pose of `a` in `b` is the inverse of that of `b` in `a`. -/
theorem inv_inv_mul (ha : a.rotation.IsUnit) (b : SE3Pose R) :
    ~~~(~~~a * b) = ~~~b * a := by
  rw [inv_mul (a := ~~~a) ha.conj, inv_inv ha]

/-- Relative poses compose. -/
theorem inv_mul_comp (hb : b.rotation.IsUnit) (a c : SE3Pose R) :
    ~~~a * b * (~~~b * c) = ~~~a * c := by
  calc
    ~~~a * b * (~~~b * c) = ~~~a * (b * ~~~b * c) := by simp only [mul_assoc]
    _ = ~~~a * c := by rw [mul_inv_cancel hb, one_mul]

end SE3Pose

/-! ## Accumulated transforms -/

theorem accumulateTransforms_append (lower upper : List (ParentEdge R)) :
    accumulateTransforms (lower ++ upper) =
      accumulateTransforms upper * accumulateTransforms lower := by
  induction upper using List.reverseRecOn with
  | nil => simp [accumulateTransforms]
  | append_singleton upper edge ih =>
      rw [← List.append_assoc, accumulateTransforms_snoc, ih, accumulateTransforms_snoc,
        mul_assoc]

theorem accumulateTransforms_cons (edge : ParentEdge R) (upper : List (ParentEdge R)) :
    accumulateTransforms (edge :: upper) = accumulateTransforms upper * edge.tform := by
  rw [← List.singleton_append, accumulateTransforms_append]
  simp [accumulateTransforms]

theorem accumulateTransforms_isUnit {path : List (ParentEdge R)}
    (units : ∀ edge ∈ path, edge.tform.rotation.IsUnit) :
    (accumulateTransforms path).rotation.IsUnit := by
  induction path with
  | nil => exact Quaternion.isUnit_one
  | cons edge path ih =>
      rw [accumulateTransforms_cons, SE3Pose.mul_rotation]
      apply Quaternion.IsUnit.mul
      · exact ih fun e he => units e (List.mem_cons_of_mem _ he)
      · exact units edge List.mem_cons_self

namespace FrameTreeSnapshot

variable {snapshot : FrameTreeSnapshot R} {a b c k r : String}
  {es fs gs : List (String × ParentEdge R)}

/-- The edges below other frames have unit rotations. -/
def HasUnitRotations (snapshot : FrameTreeSnapshot R) : Prop :=
  ∀ frame edge, snapshot.lookup frame = some edge → edge.parentFrameName ≠ "" →
    edge.tform.rotation.IsUnit

theorem climb_isUnit (units : snapshot.HasUnitRotations)
    (climb : Climbs snapshot.parentOf a es r) :
    (accumulateTransforms (es.map Prod.snd)).rotation.IsUnit := by
  apply accumulateTransforms_isUnit
  induction climb with
  | root => simp
  | @up a b edge es r h _ ih =>
      obtain ⟨lookup, rfl, named⟩ := parentOf_up_iff.mp h
      intro e he
      rw [List.map_cons, List.mem_cons] at he
      cases he with
      | inl same =>
          rw [same]
          exact units a edge lookup named
      | inr upper => exact ih e upper

/-- What `get_a_tform_b` promises of a valid snapshot. -/
structure RelatesFrames (snapshot : FrameTreeSnapshot R) : Prop where
  found : ∀ a b, a ∈ snapshot → b ∈ snapshot →
    ∃ pose, snapshot.getATformB a b = some (some pose)
  refused : ∀ a b, ¬ (a ∈ snapshot ∧ b ∈ snapshot) → snapshot.getATformB a b = some none
  edges : ∀ child edge, snapshot.lookup child = some edge → edge.parentFrameName ≠ "" →
    snapshot.getATformB edge.parentFrameName child = some (some edge.tform)
  identity : ∀ a, a ∈ snapshot → snapshot.getATformB a a = some (some 1)
  inverse : ∀ a b pose, snapshot.getATformB a b = some (some pose) →
    snapshot.getATformB b a = some (some (~~~pose))
  composes : ∀ a b c aTb bTc, snapshot.getATformB a b = some (some aTb) →
    snapshot.getATformB b c = some (some bTc) →
    snapshot.getATformB a c = some (some (aTb * bTc))
  anyAncestor : ∀ a b k es fs, Ascends snapshot.parentOf a es k →
    Ascends snapshot.parentOf b fs k → k ∈ snapshot →
    snapshot.getATformB a b = some (some (~~~accumulateTransforms (es.map Prod.snd) *
      accumulateTransforms (fs.map Prod.snd)))

/-- Only for two frames of the snapshot is a pose returned. -/
theorem getATformB_refused (valid : snapshot.validateFrameTreeSnapshot = some .valid)
    (outside : ¬ (a ∈ snapshot ∧ b ∈ snapshot)) : snapshot.getATformB a b = some none := by
  have inTree (f : String) : snapshot.isFrameInTree f = true ↔ f ∈ snapshot :=
    AList.lookup_isSome
  rw [getATformB, valid]
  by_cases ha : a ∈ snapshot
  · have hb : snapshot.isFrameInTree b = false := by
      rw [Bool.eq_false_iff, ne_eq, inTree]
      exact fun hb => outside ⟨ha, hb⟩
    simp [(inTree a).mpr ha, hb]
  · have ha' : snapshot.isFrameInTree a = false := by
      rw [Bool.eq_false_iff, ne_eq, inTree]
      exact ha
    simp [ha']

/-- The frames of a valid snapshot climb to one root, by unit rotations. -/
theorem exists_climb (valid : snapshot.validateFrameTreeSnapshot = some .valid)
    (units : snapshot.HasUnitRotations) : ∃ r : String, ∀ frame ∈ snapshot,
      ∃ es, Climbs snapshot.parentOf frame es r ∧
        (accumulateTransforms (es.map Prod.snd)).rotation.IsUnit := by
  obtain ⟨-, -, r, tree⟩ := validateFrameTreeSnapshot_valid_iff.mp valid
  refine ⟨r, fun frame inside => ?_⟩
  obtain ⟨es, climb⟩ := tree frame (parentOf_isSome.mpr inside)
  exact ⟨es, climb, climb_isUnit units climb⟩

/-- Both ends of a transform are frames of the snapshot. -/
theorem ends_inside {pose : SE3Pose R} (valid : snapshot.validateFrameTreeSnapshot = some .valid)
    (h : snapshot.getATformB a b = some (some pose)) : a ∈ snapshot ∧ b ∈ snapshot := by
  by_contra outside
  rw [getATformB_refused valid outside] at h
  cases h

/-- Between a frame and its parent the transform is that of the edge. -/
theorem getATformB_of_edge {edge : ParentEdge R}
    (valid : snapshot.validateFrameTreeSnapshot = some .valid)
    (units : snapshot.HasUnitRotations) (lookup : snapshot.lookup a = some edge)
    (named : edge.parentFrameName ≠ "") :
    snapshot.getATformB edge.parentFrameName a = some (some edge.tform) := by
  obtain ⟨-, -, r, tree⟩ := validateFrameTreeSnapshot_valid_iff.mp valid
  have step := parentOf_up_iff.mpr ⟨lookup, rfl, named⟩
  obtain ⟨es, climb⟩ := tree a (by rw [step]; rfl)
  cases climb with
  | root h => cases h.symm.trans step
  | up h tail =>
      obtain ⟨rfl, rfl⟩ := Prod.mk.inj (Option.some.inj (Option.some.inj (h.symm.trans step)))
      rw [getATformB_of_climbs valid tail (.up h tail), List.map_cons,
        accumulateTransforms_cons, ← mul_assoc,
        SE3Pose.inv_mul_cancel (climb_isUnit units tail), one_mul]

theorem getATformB_inv {aTb : SE3Pose R}
    (valid : snapshot.validateFrameTreeSnapshot = some .valid)
    (units : snapshot.HasUnitRotations) (hab : snapshot.getATformB a b = some (some aTb)) :
    snapshot.getATformB b a = some (some (~~~aTb)) := by
  obtain ⟨ha, hb⟩ := ends_inside valid hab
  obtain ⟨r, climbs⟩ := exists_climb valid units
  obtain ⟨es, climbA, unitA⟩ := climbs a ha
  obtain ⟨fs, climbB, unitB⟩ := climbs b hb
  rw [getATformB_of_climbs valid climbA climbB] at hab
  obtain rfl := Option.some.inj (Option.some.inj hab)
  rw [getATformB_of_climbs valid climbB climbA, SE3Pose.inv_inv_mul unitA]

theorem getATformB_comp {aTb bTc : SE3Pose R}
    (valid : snapshot.validateFrameTreeSnapshot = some .valid)
    (units : snapshot.HasUnitRotations) (hab : snapshot.getATformB a b = some (some aTb))
    (hbc : snapshot.getATformB b c = some (some bTc)) :
    snapshot.getATformB a c = some (some (aTb * bTc)) := by
  obtain ⟨ha, hb⟩ := ends_inside valid hab
  obtain ⟨-, hc⟩ := ends_inside valid hbc
  obtain ⟨r, climbs⟩ := exists_climb valid units
  obtain ⟨es, climbA, unitA⟩ := climbs a ha
  obtain ⟨fs, climbB, unitB⟩ := climbs b hb
  obtain ⟨gs, climbC, unitC⟩ := climbs c hc
  rw [getATformB_of_climbs valid climbA climbB] at hab
  rw [getATformB_of_climbs valid climbB climbC] at hbc
  obtain rfl := Option.some.inj (Option.some.inj hab)
  obtain rfl := Option.some.inj (Option.some.inj hbc)
  rw [getATformB_of_climbs valid climbA climbC, SE3Pose.inv_mul_comp unitB]

/-- In a valid snapshot with unit rotations the transforms between frames are those
of a tree of rigid motions. -/
theorem relatesFrames (valid : snapshot.validateFrameTreeSnapshot = some .valid)
    (units : snapshot.HasUnitRotations) : snapshot.RelatesFrames := by
  obtain ⟨r, climbOf⟩ := exists_climb valid units
  refine
    { found := ?_, refused := fun a b => getATformB_refused valid, edges := ?_,
      identity := ?_, inverse := ?_, composes := ?_, anyAncestor := ?_ }
  · intro a b ha hb
    obtain ⟨es, climbA, -⟩ := climbOf a ha
    obtain ⟨fs, climbB, -⟩ := climbOf b hb
    exact ⟨_, getATformB_of_climbs valid climbA climbB⟩
  · intro child edge lookup named
    exact getATformB_of_edge valid units lookup named
  · intro a ha
    obtain ⟨es, climb, unit⟩ := climbOf a ha
    rw [getATformB_of_climbs valid climb climb, SE3Pose.inv_mul_cancel unit]
  · intro a b pose hab
    exact getATformB_inv valid units hab
  · intro a b c aTb bTc hab hbc
    exact getATformB_comp valid units hab hbc
  · intro a b k es fs pathA pathB hk
    obtain ⟨gs, climb, unit⟩ := climbOf k hk
    rw [getATformB_of_climbs valid (pathA.climbs climb) (pathB.climbs climb), List.map_append,
      List.map_append, accumulateTransforms_append, accumulateTransforms_append,
      SE3Pose.inv_mul_mul unit]

/-- A hand below a body that lies on its side in the vision frame. -/
def handOnBody : FrameTreeSnapshot ℤ :=
  AList.insert "hand" ⟨"body", some ⟨⟨1, 2, 3⟩, ⟨0, 0, 1, 0⟩⟩⟩
    (AList.insert "body" ⟨"vision", some ⟨⟨4, 5, 6⟩, ⟨0, 1, 0, 0⟩⟩⟩
      (AList.singleton "vision" {}))

theorem handOnBody_hasUnitRotations : handOnBody.HasUnitRotations := by
  intro frame edge lookup named
  by_cases hand : frame = "hand"
  · subst hand
    obtain rfl := Option.some.inj lookup
    exact rfl
  · by_cases body : frame = "body"
    · subst body
      obtain rfl := Option.some.inj lookup
      exact rfl
    · rw [handOnBody, AList.lookup_insert_ne hand, AList.lookup_insert_ne body] at lookup
      by_cases vision : frame = "vision"
      · subst vision
        obtain rfl := Option.some.inj lookup
        exact absurd rfl named
      · have missing : frame ∉ (AList.singleton "vision" {} : FrameTreeSnapshot ℤ) := by
          rw [AList.mem_keys, AList.keys_singleton]
          exact fun mem => vision (List.mem_singleton.mp mem)
        rw [AList.lookup_eq_none.mpr missing] at lookup
        cases lookup

theorem relatesFrames_handOnBody : handOnBody.RelatesFrames :=
  relatesFrames (by decide) handOnBody_hasUnitRotations

end FrameTreeSnapshot

end SpotSdk.Api
