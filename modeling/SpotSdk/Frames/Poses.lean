import Mathlib.Algebra.Ring.Basic
import Mathlib.Tactic.Abel
import Mathlib.Tactic.LinearCombination
import Mathlib.Tactic.Ring

/-!
# Poses of frames

The formulas of `proto_math.cpp` in exact arithmetic, over any commutative ring.
An unset field of a message reads as zero. Poses compose associatively for all
quaternions, and a pose with a unit rotation has an inverse.
-/

namespace SpotSdk.Api

variable {R : Type*}

@[ext] structure Vec3 (R : Type*) where
  x : R
  y : R
  z : R
  deriving DecidableEq, Repr

@[ext] structure Quaternion (R : Type*) where
  w : R
  x : R
  y : R
  z : R
  deriving DecidableEq, Repr

/-- `SE3Pose`, written `a_T_b` for the pose of frame `b` in frame `a`. -/
@[ext] structure SE3Pose (R : Type*) where
  position : Vec3 R
  rotation : Quaternion R
  deriving DecidableEq, Repr

variable [CommRing R]

namespace Vec3

instance : Zero (Vec3 R) := ⟨⟨0, 0, 0⟩⟩
instance : Add (Vec3 R) := ⟨fun a b => ⟨a.x + b.x, a.y + b.y, a.z + b.z⟩⟩
instance : Neg (Vec3 R) := ⟨fun a => ⟨-a.x, -a.y, -a.z⟩⟩

/-- `operator*(Vec3, double)`. -/
instance : HMul (Vec3 R) R (Vec3 R) := ⟨fun a s => ⟨a.x * s, a.y * s, a.z * s⟩⟩

variable (a b : Vec3 R) (s : R)

@[simp] theorem zero_x : (0 : Vec3 R).x = 0 := rfl
@[simp] theorem zero_y : (0 : Vec3 R).y = 0 := rfl
@[simp] theorem zero_z : (0 : Vec3 R).z = 0 := rfl
@[simp] theorem add_x : (a + b).x = a.x + b.x := rfl
@[simp] theorem add_y : (a + b).y = a.y + b.y := rfl
@[simp] theorem add_z : (a + b).z = a.z + b.z := rfl
@[simp] theorem neg_x : (-a).x = -a.x := rfl
@[simp] theorem neg_y : (-a).y = -a.y := rfl
@[simp] theorem neg_z : (-a).z = -a.z := rfl
@[simp] theorem mul_x : (a * s).x = a.x * s := rfl
@[simp] theorem mul_y : (a * s).y = a.y * s := rfl
@[simp] theorem mul_z : (a * s).z = a.z * s := rfl

instance : AddCommGroup (Vec3 R) where
  add_assoc a b c := by ext <;> simp [add_assoc]
  zero_add a := by ext <;> simp
  add_zero a := by ext <;> simp
  neg_add_cancel a := by ext <;> simp
  add_comm a b := by ext <;> simp [add_comm]
  nsmul := nsmulRec
  zsmul := zsmulRec

theorem mul_neg_one : a * (-1 : R) = -a := by
  ext <;> simp

end Vec3

namespace Quaternion

instance : One (Quaternion R) := ⟨⟨1, 0, 0, 0⟩⟩

instance : Mul (Quaternion R) := ⟨fun a b =>
  ⟨a.w * b.w - a.x * b.x - a.y * b.y - a.z * b.z,
    a.w * b.x + a.x * b.w + a.y * b.z - a.z * b.y,
    a.w * b.y - a.x * b.z + a.y * b.w + a.z * b.x,
    a.w * b.z + a.x * b.y - a.y * b.x + a.z * b.w⟩⟩

/-- `operator~`, the conjugate. -/
instance : Complement (Quaternion R) := ⟨fun q => ⟨q.w, -q.x, -q.y, -q.z⟩⟩

/-- `operator*(Quaternion, Vec3)`: the vector as a pure quaternion between `q` and
`~q`, of which the scalar part is dropped. -/
instance : HMul (Quaternion R) (Vec3 R) (Vec3 R) := ⟨fun q p =>
  let q2 : Quaternion R := ⟨0, p.x, p.y, p.z⟩
  let q2 := q2 * ~~~q
  let q2 := q * q2
  ⟨q2.x, q2.y, q2.z⟩⟩

def IsUnit (q : Quaternion R) : Prop :=
  q.w * q.w + q.x * q.x + q.y * q.y + q.z * q.z = 1

section Multiplication

variable (a b c : Quaternion R)

@[simp] theorem one_w : (1 : Quaternion R).w = 1 := rfl
@[simp] theorem one_x : (1 : Quaternion R).x = 0 := rfl
@[simp] theorem one_y : (1 : Quaternion R).y = 0 := rfl
@[simp] theorem one_z : (1 : Quaternion R).z = 0 := rfl

@[simp] theorem mul_w :
    (a * b).w = a.w * b.w - a.x * b.x - a.y * b.y - a.z * b.z := rfl
@[simp] theorem mul_x :
    (a * b).x = a.w * b.x + a.x * b.w + a.y * b.z - a.z * b.y := rfl
@[simp] theorem mul_y :
    (a * b).y = a.w * b.y - a.x * b.z + a.y * b.w + a.z * b.x := rfl
@[simp] theorem mul_z :
    (a * b).z = a.w * b.z + a.x * b.y - a.y * b.x + a.z * b.w := rfl

@[simp] theorem conj_w : (~~~a).w = a.w := rfl
@[simp] theorem conj_x : (~~~a).x = -a.x := rfl
@[simp] theorem conj_y : (~~~a).y = -a.y := rfl
@[simp] theorem conj_z : (~~~a).z = -a.z := rfl

instance : Monoid (Quaternion R) where
  mul_assoc a b c := by ext <;> simp <;> ring
  one_mul a := by ext <;> simp
  mul_one a := by ext <;> simp

theorem conj_mul : ~~~(a * b) = ~~~b * ~~~a := by
  ext <;> simp <;> ring

theorem conj_one : ~~~(1 : Quaternion R) = 1 := by
  ext <;> simp

theorem isUnit_one : (1 : Quaternion R).IsUnit := by
  simp [IsUnit]

/-- The conjugate of a unit quaternion is its inverse. -/
theorem conj_mul_cancel {q : Quaternion R} (h : q.IsUnit) : ~~~q * q = 1 := by
  unfold IsUnit at h
  ext
  · simp only [mul_w, conj_w, conj_x, conj_y, conj_z, one_w]
    linear_combination h
  · simp only [mul_x, conj_w, conj_x, conj_y, conj_z, one_x]
    ring
  · simp only [mul_y, conj_w, conj_x, conj_y, conj_z, one_y]
    ring
  · simp only [mul_z, conj_w, conj_x, conj_y, conj_z, one_z]
    ring

end Multiplication

section Rotation

variable (a b : Quaternion R) (p q : Vec3 R)

/-- A vector as a quaternion without scalar part. -/
def pure (p : Vec3 R) : Quaternion R := ⟨0, p.x, p.y, p.z⟩

/-- The rotated vector as a quaternion: the scalar part that is dropped is zero. -/
theorem pure_rotate : pure (a * p) = a * (pure p * ~~~a) := by
  ext
  · simp [pure]
    ring
  · rfl
  · rfl
  · rfl

theorem pure_injective {p q : Vec3 R} (h : pure p = pure q) : p = q := by
  have x := congrArg Quaternion.x h
  have y := congrArg Quaternion.y h
  have z := congrArg Quaternion.z h
  exact Vec3.ext x y z

/-- Rotating by a product is rotating twice. -/
theorem mul_rotate : (a * b) * p = a * (b * p) := by
  apply pure_injective
  calc
    pure ((a * b) * p) = (a * b) * (pure p * ~~~(a * b)) := pure_rotate (a * b) p
    _ = a * ((b * (pure p * ~~~b)) * ~~~a) := by
      rw [conj_mul]
      simp only [mul_assoc]
    _ = a * (pure (b * p) * ~~~a) := by rw [pure_rotate]
    _ = pure (a * (b * p)) := (pure_rotate a (b * p)).symm

theorem one_rotate : (1 : Quaternion R) * p = p := by
  apply pure_injective
  rw [pure_rotate, conj_one, mul_one, one_mul]

theorem rotate_x : (a * p).x = (a * (pure p * ~~~a)).x := rfl
theorem rotate_y : (a * p).y = (a * (pure p * ~~~a)).y := rfl
theorem rotate_z : (a * p).z = (a * (pure p * ~~~a)).z := rfl

theorem rotate_add : a * (p + q) = a * p + a * q := by
  ext <;>
    simp only [rotate_x, rotate_y, rotate_z, pure, Vec3.add_x, Vec3.add_y, Vec3.add_z,
      mul_w, mul_x, mul_y, mul_z, conj_w, conj_x, conj_y, conj_z] <;>
    ring

theorem rotate_zero : a * (0 : Vec3 R) = 0 := by
  have twice := rotate_add a 0 0
  rw [add_zero] at twice
  exact left_eq_add.mp twice

theorem rotate_neg : a * (-p) = -(a * p) := by
  apply eq_neg_of_add_eq_zero_left
  rw [← rotate_add, neg_add_cancel, rotate_zero]

end Rotation

end Quaternion

namespace SE3Pose

/-- `Identity`, and `CreateSE3Pose` with its default arguments. -/
instance : One (SE3Pose R) := ⟨⟨0, 1⟩⟩

/-- A pose whose fields are not set. -/
instance : Inhabited (SE3Pose R) := ⟨⟨0, ⟨0, 0, 0, 0⟩⟩⟩

/-- `operator*(SE3Pose, SE3Pose)`. -/
instance : Mul (SE3Pose R) := ⟨fun aTb bTc =>
  let p := aTb.rotation * bTc.position
  ⟨aTb.position + p, aTb.rotation * bTc.rotation⟩⟩

/-- `operator~`. -/
instance : Complement (SE3Pose R) := ⟨fun aTb =>
  let invRot := ~~~aTb.rotation
  let p := invRot * aTb.position
  ⟨p * (-1 : R), invRot⟩⟩

variable (a b c : SE3Pose R)

@[simp] theorem one_position : (1 : SE3Pose R).position = 0 := rfl
@[simp] theorem one_rotation : (1 : SE3Pose R).rotation = 1 := rfl
@[simp] theorem mul_position :
    (a * b).position = a.position + a.rotation * b.position := rfl
@[simp] theorem mul_rotation : (a * b).rotation = a.rotation * b.rotation := rfl
@[simp] theorem inv_rotation : (~~~a).rotation = ~~~a.rotation := rfl
@[simp] theorem inv_position : (~~~a).position = -(~~~a.rotation * a.position) :=
  Vec3.mul_neg_one _

instance : Monoid (SE3Pose R) where
  mul_assoc a b c := by
    ext1
    · simp only [mul_position, mul_rotation, Quaternion.mul_rotate, Quaternion.rotate_add]
      exact add_assoc _ _ _
    · exact mul_assoc _ _ _
  one_mul a := by
    ext1
    · simp [Quaternion.one_rotate]
    · simp
  mul_one a := by
    ext1
    · simp [Quaternion.rotate_zero]
    · simp

variable {a}

theorem inv_mul_cancel (h : a.rotation.IsUnit) : ~~~a * a = 1 := by
  ext1
  · rw [mul_position, inv_position, inv_rotation]
    exact neg_add_cancel _
  · exact Quaternion.conj_mul_cancel h

/-- `~` reverses a composition whose outer rotation is a unit. -/
theorem inv_mul (h : a.rotation.IsUnit) (b : SE3Pose R) : ~~~(a * b) = ~~~b * ~~~a := by
  ext1
  · have back : ~~~a.rotation * (a.rotation * b.position) = b.position := by
      rw [← Quaternion.mul_rotate, Quaternion.conj_mul_cancel h, Quaternion.one_rotate]
    simp only [inv_position, mul_position, mul_rotation, inv_rotation, Quaternion.conj_mul]
    rw [Quaternion.mul_rotate, Quaternion.rotate_add, back, Quaternion.rotate_add,
      Quaternion.rotate_neg]
    abel
  · exact Quaternion.conj_mul _ _

/-- The transform between two frames below `n` does not depend on where `n` is. -/
theorem inv_mul_mul {n : SE3Pose R} (h : n.rotation.IsUnit) (a b : SE3Pose R) :
    ~~~(n * a) * (n * b) = ~~~a * b := by
  calc
    ~~~(n * a) * (n * b) = ~~~a * ~~~n * (n * b) := by rw [inv_mul h]
    _ = ~~~a * (~~~n * n * b) := by simp only [mul_assoc]
    _ = ~~~a * b := by rw [inv_mul_cancel h, one_mul]

end SE3Pose

end SpotSdk.Api
