import SpotSdk.Frames.FrameTree

/-!
# Reparenting a frame

`ReparentFrame` puts a new frame between a child and its parent. It reads the former
parent of the child through references into the edge that it rewrites first, so only
the reparenting of the root does what it is for.
-/

namespace SpotSdk.Api

open SpotSdk.Foundations

variable {R : Type*} [CommRing R]

namespace FrameTreeSnapshot

/-- `AddEdgeToFrameTree`. -/
def addEdgeToFrameTree (parentFrameName childFrameName : String) (pose : SE3Pose R)
    (snapshot : FrameTreeSnapshot R) : Bool × FrameTreeSnapshot R :=
  if snapshot.isFrameInTree childFrameName then (false, snapshot)
  else (true, AList.insert childFrameName ⟨parentFrameName, some pose⟩ snapshot)

/-- The map's `insert`, which leaves an entry that exists. -/
def insertNew (frame : String) (edge : ParentEdge R) (snapshot : FrameTreeSnapshot R) :
    FrameTreeSnapshot R :=
  if snapshot.isFrameInTree frame then snapshot else AList.insert frame edge snapshot

/-- `ReparentFrame`: the returned flag and the snapshot it leaves. -/
def reparentFrame (newParentName childFrameName : String) (newParentTChild : SE3Pose R)
    (snapshot : FrameTreeSnapshot R) : Bool × FrameTreeSnapshot R :=
  match snapshot.lookup childFrameName with
  | none => (false, snapshot)
  | some currentParentEdge =>
      let rewritten :=
        AList.insert childFrameName ⟨newParentName, some newParentTChild⟩ snapshot
      if currentParentEdge.parentFrameName = "" then
        (true, insertNew newParentName ⟨"", some 1⟩ rewritten)
      else
        -- `current_parent_name` and `current_parent_T_child` are references into the
        -- edge that was just rewritten. An unset pose is read as the default instance,
        -- which the rewriting does not touch.
        let currentParentName := newParentName
        let currentParentTChild :=
          currentParentEdge.parentTformChild.elim default fun _ => newParentTChild
        addEdgeToFrameTree currentParentName newParentName
          (currentParentTChild * ~~~newParentTChild) rewritten

/-- The name of the parent of a frame, empty for the root. -/
def parentName (snapshot : FrameTreeSnapshot R) (frame : String) : Option String :=
  (snapshot.lookup frame).map ParentEdge.parentFrameName

end FrameTreeSnapshot

open FrameTreeSnapshot

/-- What `ReparentFrame` is for. -/
structure Reparents (snapshot : FrameTreeSnapshot R) (newParent child : String)
    (newParentTChild : SE3Pose R) (result : Bool × FrameTreeSnapshot R) : Prop where
  returned : result.1 = true
  valid : result.2.validateFrameTreeSnapshot = some .valid
  childEdge : result.2.lookup child = some ⟨newParent, some newParentTChild⟩
  newParentName : result.2.parentName newParent = snapshot.parentName child
  others : ∀ frame, frame ≠ child → frame ≠ newParent →
    result.2.lookup frame = snapshot.lookup frame
  transforms : ∀ a b, a ∈ snapshot → b ∈ snapshot →
    result.2.getATformB a b = snapshot.getATformB a b

section Root

variable {snapshot : FrameTreeSnapshot R} {newParent child : String} {pose : SE3Pose R}
  {edge : ParentEdge R}

/-- The snapshot after the reparenting of the root. -/
def aboveRoot (snapshot : FrameTreeSnapshot R) (newParent child : String)
    (pose : SE3Pose R) : FrameTreeSnapshot R :=
  AList.insert newParent ⟨"", some 1⟩
    (AList.insert child ⟨newParent, some pose⟩ snapshot)

theorem reparentFrame_root (hchild : snapshot.lookup child = some edge)
    (root : edge.parentFrameName = "") (ne : newParent ≠ child)
    (fresh : newParent ∉ snapshot) :
    reparentFrame newParent child pose snapshot =
      (true, aboveRoot snapshot newParent child pose) := by
  have absent : snapshot.lookup newParent = none := AList.lookup_eq_none.mpr fresh
  simp [reparentFrame, hchild, root, insertNew, isFrameInTree, aboveRoot,
    AList.lookup_insert_ne ne, absent]

theorem aboveRoot_lookup_newParent :
    (aboveRoot snapshot newParent child pose).lookup newParent = some ⟨"", some 1⟩ :=
  AList.lookup_insert _

theorem aboveRoot_lookup_child (ne : newParent ≠ child) :
    (aboveRoot snapshot newParent child pose).lookup child =
      some ⟨newParent, some pose⟩ := by
  rw [aboveRoot, AList.lookup_insert_ne ne.symm, AList.lookup_insert]

theorem aboveRoot_lookup_other {frame : String} (hchild : frame ≠ child)
    (hparent : frame ≠ newParent) :
    (aboveRoot snapshot newParent child pose).lookup frame = snapshot.lookup frame := by
  rw [aboveRoot, AList.lookup_insert_ne hparent, AList.lookup_insert_ne hchild]

/-- Every climb goes on through the child to the new root. -/
theorem aboveRoot_climbs (named : newParent ≠ "") (ne : newParent ≠ child)
    (fresh : newParent ∉ snapshot) {frame : String} {es : List (String × ParentEdge R)}
    (climb : Climbs snapshot.parentOf frame es child) :
    Climbs (aboveRoot snapshot newParent child pose).parentOf frame
      (es ++ [(newParent, ⟨newParent, some pose⟩)]) newParent := by
  refine climb.graft ?_ ?_ ?_
  · intro b hb known
    have other : b ≠ newParent := by
      rintro rfl
      exact fresh (AList.mem_keys.mpr (parentOf_isSome.mp known))
    rw [parentOf, parentOf, aboveRoot_lookup_other hb other]
  · exact parentOf_up_iff.mpr ⟨aboveRoot_lookup_child ne, rfl, named⟩
  · exact parentOf_root_iff.mpr ⟨_, aboveRoot_lookup_newParent, rfl⟩

theorem aboveRoot_valid (valid : snapshot.validateFrameTreeSnapshot = some .valid)
    (hchild : snapshot.parentOf child = some none) (named : newParent ≠ "")
    (ne : newParent ≠ child) (fresh : newParent ∉ snapshot) :
    (aboveRoot snapshot newParent child pose).validateFrameTreeSnapshot = some .valid := by
  obtain ⟨-, clean, r, tree⟩ := validateFrameTreeSnapshot_valid_iff.mp valid
  obtain rfl := tree.eq_of_root hchild
  have inside : child ∈ snapshot :=
    AList.mem_keys.mpr (parentOf_isSome.mp (by rw [hchild]; rfl))
  have mem {frame : String} : frame ∈ (aboveRoot snapshot newParent child pose).keys ↔
      frame = newParent ∨ frame ∈ snapshot := by
    rw [← AList.mem_keys, aboveRoot, AList.mem_insert, AList.mem_insert]
    constructor
    · rintro (same | rfl | old)
      · exact .inl same
      · exact .inr inside
      · exact .inr old
    · rintro (same | old)
      · exact .inl same
      · exact .inr (.inr old)
  apply validateFrameTreeSnapshot_valid_iff.mpr
  refine ⟨List.ne_nil_of_mem (mem.mpr (.inl rfl)), ?_, newParent, ?_⟩
  · rw [mem, not_or]
    exact ⟨named.symm, clean⟩
  · intro frame known
    cases mem.mp (parentOf_isSome.mp known) with
    | inl same =>
        subst same
        exact ⟨[], .root (parentOf_root_iff.mpr ⟨_, aboveRoot_lookup_newParent, rfl⟩)⟩
    | inr old =>
        obtain ⟨es, climb⟩ := tree frame (parentOf_isSome.mpr old)
        exact ⟨_, aboveRoot_climbs named ne fresh climb⟩

/-- The reparenting of the root keeps every transform between the old frames. -/
theorem aboveRoot_getATformB (valid : snapshot.validateFrameTreeSnapshot = some .valid)
    (hchild : snapshot.parentOf child = some none) (named : newParent ≠ "")
    (ne : newParent ≠ child) (fresh : newParent ∉ snapshot)
    (unit : pose.rotation.IsUnit) {a b : String} (ha : a ∈ snapshot) (hb : b ∈ snapshot) :
    (aboveRoot snapshot newParent child pose).getATformB a b = snapshot.getATformB a b := by
  obtain ⟨-, -, r, tree⟩ := validateFrameTreeSnapshot_valid_iff.mp valid
  obtain rfl := tree.eq_of_root hchild
  obtain ⟨es, climbA⟩ := tree a (parentOf_isSome.mpr ha)
  obtain ⟨fs, climbB⟩ := tree b (parentOf_isSome.mpr hb)
  calc
    (aboveRoot snapshot newParent child pose).getATformB a b =
        some (some (~~~(pose * accumulateTransforms (es.map Prod.snd)) *
          (pose * accumulateTransforms (fs.map Prod.snd)))) := by
      rw [getATformB_of_climbs (aboveRoot_valid valid hchild named ne fresh)
        (aboveRoot_climbs named ne fresh climbA) (aboveRoot_climbs named ne fresh climbB)]
      simp [ParentEdge.tform]
    _ = some (some (~~~accumulateTransforms (es.map Prod.snd) *
          accumulateTransforms (fs.map Prod.snd))) := by
      rw [SE3Pose.inv_mul_mul unit]
    _ = snapshot.getATformB a b := (getATformB_of_climbs valid climbA climbB).symm

theorem reparents_root (valid : snapshot.validateFrameTreeSnapshot = some .valid)
    (hchild : snapshot.lookup child = some edge) (root : edge.parentFrameName = "")
    (named : newParent ≠ "") (fresh : newParent ∉ snapshot) (unit : pose.rotation.IsUnit) :
    Reparents snapshot newParent child pose
      (reparentFrame newParent child pose snapshot) := by
  have ne : newParent ≠ child := by
    rintro rfl
    exact fresh (AList.lookup_isSome.mp (by rw [hchild]; rfl))
  have isRoot : snapshot.parentOf child = some none :=
    parentOf_root_iff.mpr ⟨edge, hchild, root⟩
  rw [reparentFrame_root hchild root ne fresh]
  refine
    { returned := rfl, valid := aboveRoot_valid valid isRoot named ne fresh,
      childEdge := aboveRoot_lookup_child ne, newParentName := ?_, others := ?_,
      transforms := ?_ }
  · simp [parentName, aboveRoot_lookup_newParent, hchild, root]
  · intro frame hframe hparent
    exact aboveRoot_lookup_other hframe hparent
  · intro a b ha hb
    exact aboveRoot_getATformB valid isRoot named ne fresh unit ha hb

end Root

section Inner

variable {snapshot : FrameTreeSnapshot R} {newParent child : String} {pose : SE3Pose R}
  {edge : ParentEdge R}

/-- Below another frame, the new parent becomes its own parent. -/
theorem reparentFrame_inner (pose : SE3Pose R) (hchild : snapshot.lookup child = some edge)
    (inner : edge.parentFrameName ≠ "") (ne : newParent ≠ child)
    (fresh : newParent ∉ snapshot) :
    ∃ loop : SE3Pose R,
      (reparentFrame newParent child pose snapshot).2.lookup newParent =
        some ⟨newParent, some loop⟩ := by
  have absent : snapshot.lookup newParent = none := AList.lookup_eq_none.mpr fresh
  simp [reparentFrame, hchild, inner, addEdgeToFrameTree, isFrameInTree,
    AList.lookup_insert_ne ne, absent]

theorem not_reparents_inner (hchild : snapshot.lookup child = some edge)
    (inner : edge.parentFrameName ≠ "") (named : newParent ≠ "")
    (fresh : newParent ∉ snapshot) :
    ¬ Reparents snapshot newParent child pose
      (reparentFrame newParent child pose snapshot) := by
  intro reparents
  have ne : newParent ≠ child := by
    rintro rfl
    exact fresh (AList.lookup_isSome.mp (by rw [hchild]; rfl))
  obtain ⟨loop, lookup⟩ := reparentFrame_inner pose hchild inner ne fresh
  exact not_valid_of_loop lookup rfl named reparents.valid

end Inner

/-- `ReparentFrame` does what it is for exactly when the child is the root. -/
theorem reparents_iff {snapshot : FrameTreeSnapshot R} {newParent child : String}
    {pose : SE3Pose R} (valid : snapshot.validateFrameTreeSnapshot = some .valid)
    (inside : child ∈ snapshot) (named : newParent ≠ "") (fresh : newParent ∉ snapshot)
    (unit : pose.rotation.IsUnit) :
    Reparents snapshot newParent child pose
        (reparentFrame newParent child pose snapshot) ↔
      snapshot.parentName child = some "" := by
  obtain ⟨edge, hchild⟩ := Option.isSome_iff_exists.mp (AList.lookup_isSome.mpr inside)
  have name : snapshot.parentName child = some edge.parentFrameName := by
    rw [parentName, hchild]
    rfl
  rw [name, Option.some.injEq]
  constructor
  · intro reparents
    by_contra inner
    exact not_reparents_inner hchild inner named fresh reparents
  · intro root
    exact reparents_root valid hchild root named fresh unit

/-- The hand on the wrist and the wrist on the body, at the root. -/
def bodyWithArm : FrameTreeSnapshot ℤ :=
  AList.insert "hand" ⟨"link_wr1", some ⟨⟨1, 0, 0⟩, ⟨0, 1, 0, 0⟩⟩⟩
    (AList.insert "link_wr1" ⟨"body", some ⟨⟨2, 0, 1⟩, 1⟩⟩ (AList.singleton "body" {}))

/-- The body in `"odom"`, moved and turned half around. -/
def odomTBody : SE3Pose ℤ := ⟨⟨3, -2, 1⟩, ⟨0, 0, 0, 1⟩⟩

theorem reparents_bodyWithArm :
    Reparents bodyWithArm "odom" "body" odomTBody
      (reparentFrame "odom" "body" odomTBody bodyWithArm) :=
  (reparents_iff (by decide) (by decide) (by decide) (by decide)
    (by unfold Quaternion.IsUnit; decide)).mpr (by decide)

/-- The body in the vision frame. -/
def bodyInVision : FrameTreeSnapshot ℤ :=
  AList.insert "body" ⟨"vision", some 1⟩ (AList.singleton "vision" {})

/-- The body cannot be reparented to a new frame: that frame becomes its own parent. -/
theorem not_reparents_bodyInVision :
    bodyInVision.validateFrameTreeSnapshot = some .valid ∧
      ¬ Reparents bodyInVision "flat_body" "body" 1
        (reparentFrame "flat_body" "body" 1 bodyInVision) :=
  ⟨by decide, not_reparents_inner rfl (by decide) (by decide) (by decide)⟩

/-! ## A new parent that is in the tree -/

/-- The refusal of a new parent that is in the tree already. The order of the entries is
no part of a snapshot. -/
structure RefusesReparent (snapshot : FrameTreeSnapshot R)
    (result : Bool × FrameTreeSnapshot R) : Prop where
  returned : result.1 = false
  unchanged : ∀ frame, result.2.lookup frame = snapshot.lookup frame

section Existing

variable {snapshot : FrameTreeSnapshot R} {newParent child : String} {pose : SE3Pose R}
  {edge : ParentEdge R}

/-- The reparenting of the root never fails. -/
theorem reparentFrame_root_returned (newParent : String) (pose : SE3Pose R)
    (hchild : snapshot.lookup child = some edge) (root : edge.parentFrameName = "") :
    (reparentFrame newParent child pose snapshot).1 = true := by
  simp [reparentFrame, hchild, root]

/-- Below another frame the edge is rewritten before the insertion fails. -/
theorem reparentFrame_existing (hchild : snapshot.lookup child = some edge)
    (inner : edge.parentFrameName ≠ "") (known : newParent ∈ snapshot) :
    reparentFrame newParent child pose snapshot =
      (false, AList.insert child ⟨newParent, some pose⟩ snapshot) := by
  have inTree : isFrameInTree (AList.insert child ⟨newParent, some pose⟩ snapshot)
      newParent = true := by
    rw [isFrameInTree, AList.lookup_isSome, AList.mem_insert]
    exact .inr known
  simp [reparentFrame, hchild, inner, addEdgeToFrameTree, inTree]

/-- A new parent in the tree is refused without a change exactly when the edge of the
child is the new one already. -/
theorem refusesReparent_iff (valid : snapshot.validateFrameTreeSnapshot = some .valid)
    (inside : child ∈ snapshot) (known : newParent ∈ snapshot) :
    RefusesReparent snapshot (reparentFrame newParent child pose snapshot) ↔
      snapshot.lookup child = some ⟨newParent, some pose⟩ := by
  obtain ⟨edge, hchild⟩ := Option.isSome_iff_exists.mp (AList.lookup_isSome.mpr inside)
  obtain ⟨-, clean, -⟩ := validateFrameTreeSnapshot_valid_iff.mp valid
  have named : newParent ≠ "" := by
    rintro rfl
    exact clean (AList.mem_keys.mp known)
  by_cases root : edge.parentFrameName = ""
  · apply iff_of_false
    · intro refuses
      have returned := reparentFrame_root_returned newParent pose hchild root
      exact Bool.false_ne_true (refuses.returned.symm.trans returned)
    · rw [hchild]
      rintro same
      obtain rfl := Option.some.inj same
      exact named root
  · rw [reparentFrame_existing hchild root known]
    constructor
    · rintro ⟨-, unchanged⟩
      rw [← unchanged child, AList.lookup_insert]
    · intro same
      refine ⟨rfl, fun frame => ?_⟩
      by_cases here : frame = child
      · rw [here, AList.lookup_insert, same]
      · exact AList.lookup_insert_ne here

end Existing

/-- Reparenting the body to the frame it is in, by the pose it has there. -/
theorem refusesReparent_bodyInVision :
    RefusesReparent bodyInVision (reparentFrame "vision" "body" 1 bodyInVision) :=
  (refusesReparent_iff (by decide) (by decide) (by decide)).mpr (by decide)

/-- The root is made its own parent, and the caller is told that it worked. -/
theorem not_refusesReparent_bodyInVision :
    bodyInVision.validateFrameTreeSnapshot = some .valid ∧
      (reparentFrame "vision" "vision" 1 bodyInVision).1 = true ∧
      (reparentFrame "vision" "vision" 1 bodyInVision).2.lookup "vision" =
        some ⟨"vision", some 1⟩ ∧
      ¬ RefusesReparent bodyInVision (reparentFrame "vision" "vision" 1 bodyInVision) := by
  have returned : (reparentFrame "vision" "vision" 1 bodyInVision).1 = true := by decide
  refine ⟨by decide, returned, by decide, fun refuses => ?_⟩
  exact Bool.false_ne_true (refuses.returned.symm.trans returned)

end SpotSdk.Api
