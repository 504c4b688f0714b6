import Mathlib.Analysis.SpecialFunctions.Trigonometric.Inverse
import SpotSdk.Frames.Adjoints

/-!
# Planar poses

Poses of the plane have an angle for a rotation. They obey the laws of the spatial ones
by the addition theorems of sine and cosine.
-/

namespace SpotSdk.Api

open Matrix

variable {K : Type*}

@[ext] structure Vec2 (K : Type*) where
  x : K
  y : K
  deriving DecidableEq, Repr

/-- `SE2Pose`, written `a_T_b` for the pose of frame `b` in frame `a`. -/
@[ext] structure SE2Pose (K : Type*) where
  position : Vec2 K
  angle : K
  deriving DecidableEq, Repr

/-- `SE2Velocity`. -/
@[ext] structure SE2Velocity (K : Type*) where
  linear : Vec2 K
  angular : K
  deriving DecidableEq, Repr

/-- `EigenFromApiProto(SE2Velocity)`: the linear part before the angular one. -/
def SE2Velocity.toEigen (vel : SE2Velocity K) : Fin 2 ⊕ Fin 1 → K :=
  Sum.elim ![vel.linear.x, vel.linear.y] ![vel.angular]

/-- `EigenToApiProto(Matrix<double, 3, 1>)`. -/
def SE2Velocity.ofEigen (vel : Fin 2 ⊕ Fin 1 → K) : SE2Velocity K :=
  ⟨⟨vel (.inl 0), vel (.inl 1)⟩, vel (.inr 0)⟩

section Formulas

variable [CommRing K]

/-- `Skew(Vec2)`, a column. -/
def Vec2.skew (a : Vec2 K) : Matrix (Fin 2) (Fin 1) K := !![a.y; -a.x]

/-- `ToMatrix(double)`. -/
def angleToMatrix (lib : MathLibrary K) (angle : K) : Matrix (Fin 2) (Fin 2) K :=
  let c := lib.cos angle
  let s := lib.sin angle
  !![c, -s; s, c]

namespace SE2Pose

/-- The identity motion. -/
def identity : SE2Pose K := ⟨⟨0, 0⟩, 0⟩

/-- `operator*(SE2Pose, SE2Pose)`. -/
def compose (lib : MathLibrary K) (aTb bTc : SE2Pose K) : SE2Pose K :=
  let c := lib.cos aTb.angle
  let s := lib.sin aTb.angle
  ⟨⟨aTb.position.x + c * bTc.position.x - s * bTc.position.y,
    aTb.position.y + s * bTc.position.x + c * bTc.position.y⟩, aTb.angle + bTc.angle⟩

/-- `operator~`. -/
def inverse (lib : MathLibrary K) (aTb : SE2Pose K) : SE2Pose K :=
  let c := lib.cos aTb.angle
  let s := lib.sin aTb.angle
  ⟨⟨-c * aTb.position.x - s * aTb.position.y, s * aTb.position.x - c * aTb.position.y⟩,
    -aTb.angle⟩

/-- `operator*(SE2Pose, Vec2)`. -/
def act (lib : MathLibrary K) (aTb : SE2Pose K) (p : Vec2 K) : Vec2 K :=
  let c := lib.cos aTb.angle
  let s := lib.sin aTb.angle
  ⟨aTb.position.x + c * p.x - s * p.y, aTb.position.y + s * p.x + c * p.y⟩

/-- `Adjoint(SE2Pose)`. -/
def adjoint (lib : MathLibrary K) (aTb : SE2Pose K) :
    Matrix (Fin 2 ⊕ Fin 1) (Fin 2 ⊕ Fin 1) K :=
  fromBlocks (angleToMatrix lib aTb.angle) aTb.position.skew 0 1

end SE2Pose

/-- `TransformVelocity` of an `SE2Velocity`. -/
def SE2Velocity.transform (aAdjointB : Matrix (Fin 2 ⊕ Fin 1) (Fin 2 ⊕ Fin 1) K)
    (velInB : SE2Velocity K) : SE2Velocity K :=
  ofEigen (aAdjointB *ᵥ velInB.toEigen)

/-- The functions of the library are those of exact arithmetic, as far as poses need it. -/
structure MathLibrary.IsExact (lib : MathLibrary K) : Prop where
  cos_zero : lib.cos 0 = 1
  sin_zero : lib.sin 0 = 0
  cos_neg : ∀ s, lib.cos (-s) = lib.cos s
  sin_neg : ∀ s, lib.sin (-s) = -lib.sin s
  cos_add : ∀ s t, lib.cos (s + t) = lib.cos s * lib.cos t - lib.sin s * lib.sin t
  sin_add : ∀ s t, lib.sin (s + t) = lib.sin s * lib.cos t + lib.cos s * lib.sin t
  sqrt_one : lib.sqrt 1 = 1

end Formulas

section Laws

@[simp] theorem SE2Velocity.toEigen_ofEigen (v : Fin 2 ⊕ Fin 1 → K) :
    (SE2Velocity.ofEigen v).toEigen = v := by
  ext i
  rcases i with i | i <;> fin_cases i <;> rfl

@[simp] theorem SE2Velocity.ofEigen_toEigen (v : SE2Velocity K) :
    SE2Velocity.ofEigen v.toEigen = v := rfl

variable [CommRing K] {lib : MathLibrary K} {a b c : SE2Pose K}

theorem SE2Velocity.transform_transform (A B : Matrix (Fin 2 ⊕ Fin 1) (Fin 2 ⊕ Fin 1) K)
    (v : SE2Velocity K) : (v.transform B).transform A = v.transform (A * B) := by
  rw [transform, transform, transform, toEigen_ofEigen, Matrix.mulVec_mulVec]

theorem SE2Velocity.transform_one (v : SE2Velocity K) : v.transform 1 = v := by
  rw [transform, Matrix.one_mulVec, ofEigen_toEigen]

namespace MathLibrary.IsExact

theorem cos_mul_self_add (exact : lib.IsExact) (s : K) :
    lib.cos s * lib.cos s + lib.sin s * lib.sin s = 1 := by
  have sum := exact.cos_add s (-s)
  rw [add_neg_cancel, exact.cos_zero, exact.cos_neg, exact.sin_neg] at sum
  linear_combination -sum

theorem angleToMatrix_zero (exact : lib.IsExact) : angleToMatrix lib 0 = 1 := by
  rw [angleToMatrix, exact.cos_zero, exact.sin_zero, neg_zero]
  exact Matrix.one_fin_two.symm

theorem angleToMatrix_add (exact : lib.IsExact) (s t : K) :
    angleToMatrix lib (s + t) = angleToMatrix lib s * angleToMatrix lib t := by
  simp only [angleToMatrix, exact.cos_add, exact.sin_add, Matrix.mul_fin_two]
  ext i j
  fin_cases i <;> fin_cases j <;> simp <;> ring

end MathLibrary.IsExact

namespace SE2Pose

theorem compose_assoc (exact : lib.IsExact) (a b c : SE2Pose K) :
    compose lib (compose lib a b) c = compose lib a (compose lib b c) := by
  simp only [compose, exact.cos_add, exact.sin_add]
  ext
  · ring
  · ring
  · exact add_assoc _ _ _

theorem compose_act (exact : lib.IsExact) (a b : SE2Pose K) (p : Vec2 K) :
    act lib (compose lib a b) p = act lib a (act lib b p) := by
  simp only [compose, act, exact.cos_add, exact.sin_add]
  ext
  · ring
  · ring

theorem identity_compose (exact : lib.IsExact) (a : SE2Pose K) :
    compose lib identity a = a := by
  simp only [compose, identity, exact.cos_zero, exact.sin_zero]
  ext
  · ring
  · ring
  · exact zero_add _

theorem compose_identity (a : SE2Pose K) : compose lib a identity = a := by
  simp only [compose, identity]
  ext
  · ring
  · ring
  · exact add_zero _

theorem compose_inverse (exact : lib.IsExact) (a : SE2Pose K) :
    compose lib a (inverse lib a) = identity := by
  have unit := exact.cos_mul_self_add a.angle
  simp only [compose, inverse, identity]
  ext
  · linear_combination -a.position.x * unit
  · linear_combination -a.position.y * unit
  · exact add_neg_cancel _

theorem inverse_compose (exact : lib.IsExact) (a : SE2Pose K) :
    compose lib (inverse lib a) a = identity := by
  simp only [compose, inverse, identity, exact.cos_neg, exact.sin_neg]
  ext
  · ring
  · ring
  · exact neg_add_cancel _

theorem inverse_of_compose (exact : lib.IsExact) (a b : SE2Pose K) :
    inverse lib (compose lib a b) = compose lib (inverse lib b) (inverse lib a) := by
  have unit := exact.cos_mul_self_add a.angle
  simp only [compose, inverse, exact.cos_add, exact.sin_add, exact.cos_neg, exact.sin_neg]
  ext
  · linear_combination
      (-lib.cos b.angle * b.position.x - lib.sin b.angle * b.position.y) * unit
  · linear_combination
      (lib.sin b.angle * b.position.x - lib.cos b.angle * b.position.y) * unit
  · exact neg_add_rev _ _

/-- A turned vector has the turned column. -/
theorem skew_compose (a b : SE2Pose K) :
    (compose lib a b).position.skew =
      angleToMatrix lib a.angle * b.position.skew + a.position.skew := by
  ext i j
  fin_cases i <;> fin_cases j
  · simp [compose, Vec2.skew, angleToMatrix]
    ring
  · simp [compose, Vec2.skew, angleToMatrix]
    ring

theorem adjoint_compose (exact : lib.IsExact) (a b : SE2Pose K) :
    (compose lib a b).adjoint lib = a.adjoint lib * b.adjoint lib := by
  have angle : angleToMatrix lib (compose lib a b).angle =
      angleToMatrix lib a.angle * angleToMatrix lib b.angle :=
    exact.angleToMatrix_add a.angle b.angle
  simp only [adjoint, angle, skew_compose, Matrix.fromBlocks_multiply, Matrix.mul_zero,
    Matrix.mul_one, Matrix.zero_mul, add_zero, zero_add]

theorem adjoint_identity (exact : lib.IsExact) :
    (identity : SE2Pose K).adjoint lib = 1 := by
  have column : (identity : SE2Pose K).position.skew = 0 := by
    ext i j
    fin_cases i <;> fin_cases j <;> simp [identity, Vec2.skew]
  have angle : angleToMatrix lib (identity : SE2Pose K).angle = 1 := exact.angleToMatrix_zero
  rw [adjoint, angle, column, Matrix.fromBlocks_one]

end SE2Pose

/-- The laws of planar poses. -/
structure PlanarLaws (lib : MathLibrary K) (a b c : SE2Pose K) : Prop where
  assoc : .compose lib (.compose lib a b) c = SE2Pose.compose lib a (.compose lib b c)
  identity_mul : .compose lib .identity a = a
  mul_identity : .compose lib a .identity = a
  act : ∀ p : Vec2 K, (SE2Pose.compose lib a b).act lib p = a.act lib (b.act lib p)
  mul_inv : .compose lib a (a.inverse lib) = SE2Pose.identity
  inv_mul : .compose lib (a.inverse lib) a = SE2Pose.identity
  inv_comp : (SE2Pose.compose lib a b).inverse lib =
    .compose lib (b.inverse lib) (a.inverse lib)
  adjoint_mul : (SE2Pose.compose lib a b).adjoint lib = a.adjoint lib * b.adjoint lib
  undo : ∀ v : SE2Velocity K,
    (v.transform (a.adjoint lib)).transform ((a.inverse lib).adjoint lib) = v

theorem planarLaws (exact : lib.IsExact) : PlanarLaws lib a b c := by
  constructor
  case assoc => exact SE2Pose.compose_assoc exact a b c
  case identity_mul => exact SE2Pose.identity_compose exact a
  case mul_identity => exact SE2Pose.compose_identity a
  case act => exact SE2Pose.compose_act exact a b
  case mul_inv => exact SE2Pose.compose_inverse exact a
  case inv_mul => exact SE2Pose.inverse_compose exact a
  case inv_comp => exact SE2Pose.inverse_of_compose exact a b
  case adjoint_mul => exact SE2Pose.adjoint_compose exact a b
  case undo =>
    intro v
    rw [SE2Velocity.transform_transform, ← SE2Pose.adjoint_compose exact,
      SE2Pose.inverse_compose exact, SE2Pose.adjoint_identity exact, SE2Velocity.transform_one]

end Laws

/-! ## Real arithmetic -/

/-- The real functions. -/
noncomputable def realLibrary : MathLibrary ℝ where
  acos := Real.arccos
  sin := Real.sin
  cos := Real.cos
  sqrt := Real.sqrt

theorem realLibrary_isExact : realLibrary.IsExact where
  cos_zero := Real.cos_zero
  sin_zero := Real.sin_zero
  cos_neg := Real.cos_neg
  sin_neg := Real.sin_neg
  cos_add := Real.cos_add
  sin_add := Real.sin_add
  sqrt_one := Real.sqrt_one

/-- Spatial poses with unit rotations and planar poses obey the laws in real arithmetic,
whatever the local matrix of the adjoint holds. -/
theorem poses_obey_laws {a b c : SE3Pose ℝ} (ha : a.rotation.IsUnit) (hb : b.rotation.IsUnit)
    (f g h : SE2Pose ℝ) :
    (∀ unassigned, SpatialLaws realLibrary unassigned a b c) ∧ PlanarLaws realLibrary f g h :=
  ⟨fun _ => spatialLaws Real.sqrt_one ha hb, planarLaws realLibrary_isExact⟩

/-- A half turn about one axis and about another, and two turns of the plane. -/
theorem poses_obey_laws_turns :
    (∀ unassigned, SpatialLaws realLibrary unassigned ⟨⟨1, 2, 3⟩, ⟨0, 1, 0, 0⟩⟩
        ⟨⟨4, 5, 6⟩, ⟨0, 0, 1, 0⟩⟩ 1) ∧
      PlanarLaws realLibrary ⟨⟨1, 2⟩, Real.pi⟩ ⟨⟨3, 4⟩, 1⟩ SE2Pose.identity :=
  poses_obey_laws (by simp [Quaternion.IsUnit]) (by simp [Quaternion.IsUnit]) _ _ _

end SpotSdk.Api
