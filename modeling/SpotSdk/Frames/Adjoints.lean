import Mathlib.Data.Matrix.Block
import Mathlib.LinearAlgebra.Matrix.Notation
import Mathlib.Tactic.FinCases
import SpotSdk.Frames.PoseInterpolation
import SpotSdk.Frames.RelativePoses

/-!
# Adjoints of poses

The adjoint of a pose takes a velocity from one frame to another. It is made of the
rotation matrix of the pose and of its skew matrix, while poses act on points by a
quaternion sandwich. For unit rotations both agree, and adjoints compose as poses do.
-/

namespace SpotSdk.Api

open Matrix

variable {K : Type*}

section Matrices

variable [CommRing K]

/-- `EigenFromApiProto(Vec3)`. -/
def Vec3.toEigen (a : Vec3 K) : Fin 3 → K := ![a.x, a.y, a.z]

/-- `Skew(Vec3)`. -/
def Vec3.skew (a : Vec3 K) : Matrix (Fin 3) (Fin 3) K :=
  !![0, -a.z, a.y;
    a.z, 0, -a.x;
    -a.y, a.x, 0]

/-- Eigen's `toRotationMatrix`. -/
def Quaternion.toRotationMatrix (q : Quaternion K) : Matrix (Fin 3) (Fin 3) K :=
  let tx := 2 * q.x
  let ty := 2 * q.y
  let tz := 2 * q.z
  !![1 - (ty * q.y + tz * q.z), ty * q.x - tz * q.w, tz * q.x + ty * q.w;
    ty * q.x + tz * q.w, 1 - (tx * q.x + tz * q.z), tz * q.y - tx * q.w;
    tz * q.x - ty * q.w, tz * q.y + tx * q.w, 1 - (tx * q.x + ty * q.y)]

def Quaternion.normSq (q : Quaternion K) : K :=
  q.x * q.x + q.y * q.y + q.z * q.z + q.w * q.w

/-- `operator*(SE3Pose, Vec3)`. -/
instance instActSE3Pose : HMul (SE3Pose K) (Vec3 K) (Vec3 K) :=
  ⟨fun aTb p => aTb.rotation * p + aTb.position⟩

/-- `SE3Velocity`. -/
@[ext] structure SE3Velocity (K : Type*) where
  linear : Vec3 K
  angular : Vec3 K
  deriving DecidableEq, Repr

/-- `EigenFromApiProto(SE3Velocity)`: the linear part before the angular one. -/
def SE3Velocity.toEigen (vel : SE3Velocity K) : Fin 3 ⊕ Fin 3 → K :=
  Sum.elim vel.linear.toEigen vel.angular.toEigen

/-- `EigenToApiProto(Matrix<double, 6, 1>)`. -/
def SE3Velocity.ofEigen (vel : Fin 3 ⊕ Fin 3 → K) : SE3Velocity K :=
  ⟨⟨vel (.inl 0), vel (.inl 1), vel (.inl 2)⟩, ⟨vel (.inr 0), vel (.inr 1), vel (.inr 2)⟩⟩

/-- `TransformVelocity` of an `SE3Velocity`. -/
def SE3Velocity.transform (aAdjointB : Matrix (Fin 3 ⊕ Fin 3) (Fin 3 ⊕ Fin 3) K)
    (velInB : SE3Velocity K) : SE3Velocity K :=
  ofEigen (aAdjointB *ᵥ velInB.toEigen)

/-- The blocks of the adjoint of a rotation matrix and a position. -/
def adjointBlocks (position : Vec3 K) (aRb : Matrix (Fin 3) (Fin 3) K) :
    Matrix (Fin 3 ⊕ Fin 3) (Fin 3 ⊕ Fin 3) K :=
  fromBlocks aRb (position.skew * aRb) 0 aRb

end Matrices

section Norms

variable [Field K] [LinearOrder K]

/-- The norm that `ToMatrix` checks. -/
def Quaternion.norm (lib : MathLibrary K) (q : Quaternion K) : K :=
  lib.sqrt q.normSq

/-- `ToMatrix(Quaternion)`: the assigned matrix, absent when it returns false. -/
def Quaternion.toMatrix (lib : MathLibrary K) (q : Quaternion K) :
    Option (Matrix (Fin 3) (Fin 3) K) :=
  if |q.norm lib - 1| > 1 / 1000 then none else some q.toRotationMatrix

/-- `Adjoint(SE3Pose)`, over what its local matrix holds when `ToMatrix` does not assign
it: the returned flag is ignored. -/
def SE3Pose.adjoint (lib : MathLibrary K) (unassigned : Matrix (Fin 3) (Fin 3) K)
    (aTb : SE3Pose K) : Matrix (Fin 3 ⊕ Fin 3) (Fin 3 ⊕ Fin 3) K :=
  let aRb := (aTb.rotation.toMatrix lib).getD unassigned
  adjointBlocks aTb.position aRb

end Norms

/-! ## Rotation matrices -/

section Rotations

@[simp] theorem Vec3.toEigen_zero (a : Vec3 K) : a.toEigen 0 = a.x := rfl
@[simp] theorem Vec3.toEigen_one (a : Vec3 K) : a.toEigen 1 = a.y := rfl
@[simp] theorem Vec3.toEigen_two (a : Vec3 K) : a.toEigen 2 = a.z := rfl

/-- Every column is that of a vector. -/
theorem Vec3.exists_toEigen (v : Fin 3 → K) : ∃ p : Vec3 K, p.toEigen = v := by
  refine ⟨⟨v 0, v 1, v 2⟩, ?_⟩
  ext i
  fin_cases i <;> rfl

@[simp] theorem SE3Velocity.toEigen_ofEigen (v : Fin 3 ⊕ Fin 3 → K) :
    (SE3Velocity.ofEigen v).toEigen = v := by
  ext i
  rcases i with i | i <;> fin_cases i <;> rfl

@[simp] theorem SE3Velocity.ofEigen_toEigen (v : SE3Velocity K) :
    SE3Velocity.ofEigen v.toEigen = v := rfl

variable [CommRing K] {q q' : Quaternion K}

/-- Matrices that agree on all vectors are equal. -/
theorem matrix_ext {A B : Matrix (Fin 3) (Fin 3) K}
    (h : ∀ p : Vec3 K, A *ᵥ p.toEigen = B *ᵥ p.toEigen) : A = B := by
  apply Matrix.ext_iff_mulVec.mpr
  intro v
  obtain ⟨p, rfl⟩ := Vec3.exists_toEigen v
  exact h p

theorem mulVec_toEigen (A : Matrix (Fin 3) (Fin 3) K) (p : Vec3 K) (i : Fin 3) :
    (A *ᵥ p.toEigen) i = A i 0 * p.x + A i 1 * p.y + A i 2 * p.z :=
  Matrix.vec3_dotProduct (A i) p.toEigen

/-- The matrix of a unit rotation acts as the sandwich does. -/
theorem toRotationMatrix_mulVec (h : q.IsUnit) (p : Vec3 K) :
    q.toRotationMatrix *ᵥ p.toEigen = (q * p).toEigen := by
  unfold Quaternion.IsUnit at h
  ext i
  rw [mulVec_toEigen]
  fin_cases i
  · simp [Quaternion.toRotationMatrix, Quaternion.rotate_x, Quaternion.pure]
    linear_combination -p.x * h
  · simp [Quaternion.toRotationMatrix, Quaternion.rotate_y, Quaternion.pure]
    linear_combination -p.y * h
  · simp [Quaternion.toRotationMatrix, Quaternion.rotate_z, Quaternion.pure]
    linear_combination -p.z * h

theorem toRotationMatrix_one : (1 : Quaternion K).toRotationMatrix = 1 := by
  apply matrix_ext
  intro p
  rw [toRotationMatrix_mulVec Quaternion.isUnit_one, Quaternion.one_rotate, Matrix.one_mulVec]

theorem toRotationMatrix_mul (h : q.IsUnit) (h' : q'.IsUnit) :
    (q * q').toRotationMatrix = q.toRotationMatrix * q'.toRotationMatrix := by
  apply matrix_ext
  intro p
  rw [toRotationMatrix_mulVec (h.mul h'), Quaternion.mul_rotate, ← Matrix.mulVec_mulVec,
    toRotationMatrix_mulVec h', toRotationMatrix_mulVec h]

/-- The cross product. -/
def Vec3.cross (a b : Vec3 K) : Vec3 K :=
  ⟨a.y * b.z - a.z * b.y, a.z * b.x - a.x * b.z, a.x * b.y - a.y * b.x⟩

theorem skew_mulVec (a p : Vec3 K) : a.skew *ᵥ p.toEigen = (a.cross p).toEigen := by
  ext i
  rw [mulVec_toEigen]
  fin_cases i
  · simp [Vec3.skew, Vec3.cross]
    ring
  · simp [Vec3.skew, Vec3.cross]
    ring
  · simp [Vec3.skew, Vec3.cross]
    ring

theorem skew_add (a b : Vec3 K) : (a + b).skew = a.skew + b.skew := by
  ext i j
  fin_cases i <;> fin_cases j <;> simp [Vec3.skew, add_comm]

theorem skew_zero : (0 : Vec3 K).skew = 0 := by
  ext i j
  fin_cases i <;> fin_cases j <;> simp [Vec3.skew]

/-- The vector part of a quaternion. -/
def Quaternion.vec (q : Quaternion K) : Vec3 K := ⟨q.x, q.y, q.z⟩

theorem vec_pure_mul (a b : Vec3 K) :
    (Quaternion.pure a * Quaternion.pure b).vec = a.cross b := by
  ext
  · simp [Quaternion.vec, Quaternion.pure, Vec3.cross]
  · simp [Quaternion.vec, Quaternion.pure, Vec3.cross]
    ring
  · simp [Quaternion.vec, Quaternion.pure, Vec3.cross]

/-- A scalar part stays scalar between a quaternion and its conjugate. -/
theorem vec_sandwich (q p : Quaternion K) : (q * (p * ~~~q)).vec = q * p.vec := by
  ext
  · simp [Quaternion.vec, Quaternion.rotate_x, Quaternion.pure]
    ring
  · simp [Quaternion.vec, Quaternion.rotate_y, Quaternion.pure]
    ring
  · simp [Quaternion.vec, Quaternion.rotate_z, Quaternion.pure]
    ring

/-- A unit rotation rotates cross products. -/
theorem rotate_cross (h : q.IsUnit) (a b : Vec3 K) :
    (q * a).cross (q * b) = q * a.cross b := by
  have product : Quaternion.pure (q * a) * Quaternion.pure (q * b) =
      q * (Quaternion.pure a * Quaternion.pure b * ~~~q) := by
    calc
      Quaternion.pure (q * a) * Quaternion.pure (q * b) =
          q * Quaternion.pure a * (~~~q * q) * Quaternion.pure b * ~~~q := by
        simp only [Quaternion.pure_rotate, mul_assoc]
      _ = q * (Quaternion.pure a * Quaternion.pure b * ~~~q) := by
        rw [Quaternion.conj_mul_cancel h, mul_one]
        simp only [mul_assoc]
  calc
    (q * a).cross (q * b) = (Quaternion.pure (q * a) * Quaternion.pure (q * b)).vec :=
      (vec_pure_mul _ _).symm
    _ = (q * (Quaternion.pure a * Quaternion.pure b * ~~~q)).vec := by rw [product]
    _ = q * a.cross b := by rw [vec_sandwich, vec_pure_mul]

/-- The skew matrix of a rotated vector. -/
theorem skew_rotate (h : q.IsUnit) (a : Vec3 K) :
    (q * a).skew * q.toRotationMatrix = q.toRotationMatrix * a.skew := by
  apply matrix_ext
  intro p
  rw [← Matrix.mulVec_mulVec, ← Matrix.mulVec_mulVec, toRotationMatrix_mulVec h, skew_mulVec,
    skew_mulVec, toRotationMatrix_mulVec h, rotate_cross h]

theorem adjointBlocks_one : adjointBlocks (0 : Vec3 K) 1 = 1 := by
  rw [adjointBlocks, skew_zero, Matrix.zero_mul, Matrix.fromBlocks_one]

/-- The adjoint of a composition of unit poses is the product of their adjoints. -/
theorem adjointBlocks_mul {a b : SE3Pose K} (ha : a.rotation.IsUnit) (hb : b.rotation.IsUnit) :
    adjointBlocks (a * b).position (a * b).rotation.toRotationMatrix =
      adjointBlocks a.position a.rotation.toRotationMatrix *
        adjointBlocks b.position b.rotation.toRotationMatrix := by
  have corner : (a.rotation * b.position).skew *
      (a.rotation.toRotationMatrix * b.rotation.toRotationMatrix) =
        a.rotation.toRotationMatrix * (b.position.skew * b.rotation.toRotationMatrix) := by
    rw [← Matrix.mul_assoc, skew_rotate ha, Matrix.mul_assoc]
  simp only [adjointBlocks, Matrix.fromBlocks_multiply, SE3Pose.mul_position,
    SE3Pose.mul_rotation, toRotationMatrix_mul ha hb, skew_add, Matrix.add_mul, corner,
    Matrix.mul_zero, Matrix.zero_mul, add_zero, zero_add, Matrix.mul_assoc]
  rw [add_comm]

/-- Transforming twice is transforming by the product. -/
theorem SE3Velocity.transform_transform (A B : Matrix (Fin 3 ⊕ Fin 3) (Fin 3 ⊕ Fin 3) K)
    (v : SE3Velocity K) : (v.transform B).transform A = v.transform (A * B) := by
  rw [transform, transform, transform, toEigen_ofEigen, Matrix.mulVec_mulVec]

theorem SE3Velocity.transform_one (v : SE3Velocity K) : v.transform 1 = v := by
  rw [transform, Matrix.one_mulVec, ofEigen_toEigen]

/-- Composed poses act one after the other. -/
theorem mul_act (a b : SE3Pose K) (p : Vec3 K) : (a * b) * p = a * (b * p) := by
  change (a * b).rotation * p + (a * b).position =
    a.rotation * (b.rotation * p + b.position) + a.position
  rw [SE3Pose.mul_rotation, SE3Pose.mul_position, Quaternion.mul_rotate, Quaternion.rotate_add]
  abel

end Rotations

/-! ## Spatial poses -/

section Spatial

variable [Field K] [LinearOrder K] [IsStrictOrderedRing K] {lib : MathLibrary K}
  {unassigned : Matrix (Fin 3) (Fin 3) K} {a b c : SE3Pose K} {q : Quaternion K}

/-- `ToMatrix` accepts unit rotations. -/
theorem toMatrix_of_isUnit (sqrt_one : lib.sqrt 1 = 1) (h : q.IsUnit) :
    q.toMatrix lib = some q.toRotationMatrix := by
  have squares : q.normSq = 1 := by
    unfold Quaternion.IsUnit at h
    rw [Quaternion.normSq]
    linear_combination h
  have one : q.norm lib = 1 := by rw [Quaternion.norm, squares, sqrt_one]
  have near : ¬ |q.norm lib - 1| > 1 / 1000 := by
    rw [one, sub_self, abs_zero]
    exact not_lt.mpr (by positivity)
  rw [Quaternion.toMatrix, if_neg near]

theorem adjoint_of_isUnit (sqrt_one : lib.sqrt 1 = 1) (h : a.rotation.IsUnit) :
    a.adjoint lib unassigned = adjointBlocks a.position a.rotation.toRotationMatrix := by
  rw [SE3Pose.adjoint, toMatrix_of_isUnit sqrt_one h, Option.getD_some]

/-- The laws of poses with unit rotations. -/
structure SpatialLaws (lib : MathLibrary K) (unassigned : Matrix (Fin 3) (Fin 3) K)
    (a b c : SE3Pose K) : Prop where
  assoc : a * b * c = a * (b * c)
  one_mul : 1 * a = a
  mul_one : a * 1 = a
  act : ∀ p : Vec3 K, (a * b) * p = a * (b * p)
  mul_inv : a * ~~~a = 1
  inv_mul : ~~~a * a = 1
  inv_comp : ~~~(a * b) = ~~~b * ~~~a
  adjoint_mul : (a * b).adjoint lib unassigned =
    a.adjoint lib unassigned * b.adjoint lib unassigned
  undo : ∀ v : SE3Velocity K,
    (v.transform (a.adjoint lib unassigned)).transform ((~~~a).adjoint lib unassigned) = v

theorem spatialLaws (sqrt_one : lib.sqrt 1 = 1) (ha : a.rotation.IsUnit)
    (hb : b.rotation.IsUnit) : SpatialLaws lib unassigned a b c := by
  have inverse : (~~~a).rotation.IsUnit := ha.conj
  constructor
  case assoc => exact mul_assoc a b c
  case one_mul => exact one_mul a
  case mul_one => exact mul_one a
  case act => exact mul_act a b
  case mul_inv => exact SE3Pose.mul_inv_cancel ha
  case inv_mul => exact SE3Pose.inv_mul_cancel ha
  case inv_comp => exact SE3Pose.inv_mul ha b
  case adjoint_mul =>
    rw [adjoint_of_isUnit sqrt_one ha, adjoint_of_isUnit sqrt_one hb,
      adjoint_of_isUnit sqrt_one (a := a * b) (ha.mul hb), adjointBlocks_mul ha hb]
  case undo =>
    intro v
    rw [SE3Velocity.transform_transform, adjoint_of_isUnit sqrt_one ha,
      adjoint_of_isUnit sqrt_one inverse, ← adjointBlocks_mul inverse ha,
      SE3Pose.inv_mul_cancel ha, SE3Pose.one_position, SE3Pose.one_rotation,
      toRotationMatrix_one, adjointBlocks_one, SE3Velocity.transform_one]

end Spatial

end SpotSdk.Api
