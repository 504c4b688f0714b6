import SpotSdk.Frames.Reparent
import SpotSdk.Frames.RelativePoses

/-!
# Growing frame trees

Nothing that the frame helpers answer depends on the order in which the map holds its
edges, nor on the order in which edges were added. An edge to a new frame keeps a valid
snapshot valid exactly when it hangs the frame below one of the tree, and then moves none
of the others.
-/

namespace SpotSdk.Api

open SpotSdk.Foundations

variable {R : Type*}

/-- The arguments of an `AddEdgeToFrameTree` call. -/
structure EdgeCall (R : Type*) where
  parentFrameName : String
  childFrameName : String
  pose : SE3Pose R

/-- The edge that the call adds. -/
def EdgeCall.edge (call : EdgeCall R) : ParentEdge R := ⟨call.parentFrameName, some call.pose⟩

namespace FrameTreeSnapshot

/-- A sequence of `AddEdgeToFrameTree` calls: what they return, and the snapshot they leave. -/
def addEdges (snapshot : FrameTreeSnapshot R) : List (EdgeCall R) → List Bool × FrameTreeSnapshot R
  | [] => ([], snapshot)
  | call :: calls =>
      let added := snapshot.addEdgeToFrameTree call.parentFrameName call.childFrameName call.pose
      let rest := addEdges added.2 calls
      (added.1 :: rest.1, rest.2)

/-- Two snapshots hold the same edges, in any order. -/
def SameEdges (s s' : FrameTreeSnapshot R) : Prop := ∀ frame, s.lookup frame = s'.lookup frame

variable {s s' : FrameTreeSnapshot R} {a b child parent : String} {calls calls' : List (EdgeCall R)}

/-! ## The order of the entries -/

theorem SameEdges.symm (same : SameEdges s s') : SameEdges s' s := fun frame => (same frame).symm

theorem SameEdges.parentOf (same : SameEdges s s') : s.parentOf = s'.parentOf := by
  funext frame
  rw [FrameTreeSnapshot.parentOf, FrameTreeSnapshot.parentOf, same frame]

theorem SameEdges.mem_keys (same : SameEdges s s') : a ∈ s.keys ↔ a ∈ s'.keys := by
  rw [← parentOf_isSome, ← parentOf_isSome, same.parentOf]

/-- The order of the entries does not decide whether a snapshot is valid. -/
theorem SameEdges.valid (same : SameEdges s s')
    (valid : s.validateFrameTreeSnapshot = some .valid) :
    s'.validateFrameTreeSnapshot = some .valid := by
  obtain ⟨nonempty, clean, r, tree⟩ := validateFrameTreeSnapshot_valid_iff.mp valid
  obtain ⟨frame, inside⟩ := List.exists_mem_of_ne_nil _ nonempty
  refine validateFrameTreeSnapshot_valid_iff.mpr ⟨?_, mt same.mem_keys.mpr clean, r, ?_⟩
  · exact List.ne_nil_of_mem (same.mem_keys.mp inside)
  · rwa [← same.parentOf]

theorem SameEdges.valid_iff (same : SameEdges s s') :
    s.validateFrameTreeSnapshot = some .valid ↔ s'.validateFrameTreeSnapshot = some .valid :=
  ⟨same.valid, same.symm.valid⟩

/-! ## The order of the calls -/

theorem isFrameInTree_iff : s.isFrameInTree a = true ↔ a ∈ s := AList.lookup_isSome

theorem addEdge_new {pose : SE3Pose R} (fresh : child ∉ s) :
    s.addEdgeToFrameTree parent child pose =
      (true, AList.insert child ⟨parent, some pose⟩ s) :=
  if_neg (mt isFrameInTree_iff.mp fresh)

theorem addEdge_old {pose : SE3Pose R} (inside : child ∈ s) :
    s.addEdgeToFrameTree parent child pose = (false, s) :=
  if_pos (isFrameInTree_iff.mpr inside)

/-- A call returns whether its frame was new, and leaves it in the tree. -/
theorem mem_addEdge (call : EdgeCall R) :
    a ∈ (s.addEdgeToFrameTree call.parentFrameName call.childFrameName call.pose).2 ↔
      a ∈ s ∨ a = call.childFrameName := by
  by_cases inside : call.childFrameName ∈ s
  · rw [addEdge_old inside]
    constructor
    · exact .inl
    · rintro (old | rfl)
      · exact old
      · exact inside
  · rw [addEdge_new inside, AList.mem_insert, or_comm]

/-- All calls are accepted exactly when they name new frames, each of them once. -/
theorem accepted_iff : (∀ added ∈ (s.addEdges calls).1, added = true) ↔
    (calls.map EdgeCall.childFrameName).Nodup ∧ ∀ call ∈ calls, call.childFrameName ∉ s := by
  induction calls generalizing s with
  | nil => simp [addEdges]
  | cons call calls ih =>
      rw [addEdges, List.forall_mem_cons, ih, List.map_cons, List.nodup_cons,
        List.forall_mem_cons]
      have first : (s.addEdgeToFrameTree call.parentFrameName call.childFrameName call.pose).1 =
          true ↔ call.childFrameName ∉ s := by
        by_cases inside : call.childFrameName ∈ s
        · simp [addEdge_old inside, inside]
        · simp [addEdge_new inside, inside]
      have later : (∀ other ∈ calls, other.childFrameName ∉
          (s.addEdgeToFrameTree call.parentFrameName call.childFrameName call.pose).2) ↔
            (∀ other ∈ calls, other.childFrameName ∉ s) ∧
              call.childFrameName ∉ calls.map EdgeCall.childFrameName := by
        simp only [mem_addEdge, not_or, List.mem_map, not_exists, not_and]
        exact ⟨fun all => ⟨fun other h => (all other h).1, fun other h => (all other h).2⟩,
          fun both other h => ⟨both.1 other h, both.2 other h⟩⟩
      rw [first, later]
      constructor
      · rintro ⟨new, distinct, others, apart⟩
        exact ⟨⟨apart, distinct⟩, new, others⟩
      · rintro ⟨⟨apart, distinct⟩, new, others⟩
        exact ⟨new, distinct, others, apart⟩

/-- The edges of a snapshot that calls leave, when they were all accepted. -/
theorem lookup_addEdges {edge : ParentEdge R}
    (accepted : ∀ added ∈ (s.addEdges calls).1, added = true) :
    (s.addEdges calls).2.lookup a = some edge ↔
      s.lookup a = some edge ∨
        ∃ call ∈ calls, call.childFrameName = a ∧ call.edge = edge := by
  induction calls generalizing s with
  | nil => simp [addEdges]
  | cons call calls ih =>
      have fresh : call.childFrameName ∉ s :=
        (accepted_iff.mp accepted).2 call List.mem_cons_self
      rw [addEdges] at accepted ⊢
      have rest := ih (List.forall_mem_cons.mp accepted).2
      rw [rest, addEdge_new fresh]
      by_cases same : a = call.childFrameName
      · subst same
        have absent := AList.lookup_eq_none.mpr fresh
        simp [AList.lookup_insert, absent, EdgeCall.edge]
      · simp [AList.lookup_insert_ne same, Ne.symm same]

/-! ## New leaves -/

variable {pose : SE3Pose R}

/-- The snapshot with a new leaf. -/
def withLeaf (s : FrameTreeSnapshot R) (parent child : String) (pose : SE3Pose R) :
    FrameTreeSnapshot R :=
  AList.insert child ⟨parent, some pose⟩ s

theorem withLeaf_parentOf_old (fresh : child ∉ s) (known : (s.parentOf a).isSome = true) :
    (withLeaf s parent child pose).parentOf a = s.parentOf a := by
  have other : a ≠ child := by
    rintro rfl
    exact fresh (AList.mem_keys.mpr (parentOf_isSome.mp known))
  rw [parentOf, parentOf, withLeaf, AList.lookup_insert_ne other]

theorem withLeaf_climbs {r : String} {es : List (String × ParentEdge R)} (fresh : child ∉ s)
    (climb : Climbs s.parentOf a es r) :
    Climbs (withLeaf s parent child pose).parentOf a es r :=
  climb.grow fun _ known => withLeaf_parentOf_old fresh known

theorem withLeaf_climbs_child {r : String} {es : List (String × ParentEdge R)}
    (fresh : child ∉ s) (named : parent ≠ "") (climb : Climbs s.parentOf parent es r) :
    Climbs (withLeaf s parent child pose).parentOf child
      ((parent, ⟨parent, some pose⟩) :: es) r :=
  .up (parentOf_up_iff.mpr ⟨AList.lookup_insert _, rfl, named⟩) (withLeaf_climbs fresh climb)

/-- A leaf keeps a valid snapshot valid exactly when it is named and hangs below a frame of
the tree. -/
theorem withLeaf_valid_iff (valid : s.validateFrameTreeSnapshot = some .valid)
    (fresh : child ∉ s) :
    (withLeaf s parent child pose).validateFrameTreeSnapshot = some .valid ↔
      child ≠ "" ∧ parent ∈ s := by
  obtain ⟨nonempty, clean, r, tree⟩ := validateFrameTreeSnapshot_valid_iff.mp valid
  have mem {frame : String} : frame ∈ (withLeaf s parent child pose).keys ↔
      frame = child ∨ frame ∈ s := by
    rw [← AList.mem_keys, withLeaf, AList.mem_insert]
  constructor
  · intro valid'
    obtain ⟨-, clean', r', tree'⟩ := validateFrameTreeSnapshot_valid_iff.mp valid'
    have named : child ≠ "" := by
      rintro rfl
      exact clean' (mem.mpr (.inl rfl))
    refine ⟨named, ?_⟩
    -- The root is still a root, so the leaf has to climb to it.
    obtain ⟨frame, inside⟩ := List.exists_mem_of_ne_nil _ nonempty
    obtain ⟨_, climb⟩ := tree frame (parentOf_isSome.mpr inside)
    have top := climb.root_next
    have known : (s.parentOf r).isSome = true := by rw [top]; rfl
    obtain rfl := tree'.eq_of_root ((withLeaf_parentOf_old fresh known).trans top)
    obtain ⟨es, climbs⟩ := tree' child (parentOf_isSome.mpr (mem.mpr (.inl rfl)))
    have edge : (withLeaf s parent child pose).lookup child = some ⟨parent, some pose⟩ :=
      AList.lookup_insert _
    cases climbs with
    | root =>
        exact absurd (AList.mem_keys.mpr (parentOf_isSome.mp known)) fresh
    | up h tail =>
        obtain ⟨lookup, rfl, -⟩ := parentOf_up_iff.mp h
        obtain rfl := Option.some.inj (edge.symm.trans lookup)
        rcases mem.mp (parentOf_isSome.mp (tail.known List.mem_cons_self)) with same | old
        · exact absurd (Climbs.up h tail) (Climbs.not_of_loop (same ▸ h))
        · exact old
  · rintro ⟨named, below⟩
    have parentNamed : parent ≠ "" := by
      rintro rfl
      exact clean (AList.mem_keys.mp below)
    refine validateFrameTreeSnapshot_valid_iff.mpr
      ⟨List.ne_nil_of_mem (mem.mpr (.inl rfl)), ?_, r, fun frame known => ?_⟩
    · rw [mem, not_or]
      exact ⟨named.symm, mt AList.mem_keys.mp clean⟩
    · rcases mem.mp (parentOf_isSome.mp known) with rfl | old
      · obtain ⟨es, climb⟩ := tree parent (parentOf_isSome.mpr (AList.mem_keys.mp below))
        exact ⟨_, withLeaf_climbs_child fresh parentNamed climb⟩
      · obtain ⟨es, climb⟩ := tree frame (parentOf_isSome.mpr (AList.mem_keys.mp old))
        exact ⟨es, withLeaf_climbs fresh climb⟩

/-! ## What stays the same -/

variable [CommRing R]

/-- In a snapshot that is not valid no pose is returned. -/
theorem getATformB_of_not_valid (invalid : s.validateFrameTreeSnapshot ≠ some .valid) :
    s.getATformB a b = some none := by
  obtain ⟨status, check⟩ :=
    Option.isSome_iff_exists.mp s.validateFrameTreeSnapshot_isSome
  have bad : status ≠ .valid := by
    rintro rfl
    exact invalid check
  simp [getATformB, check, bad]

/-- The order of the entries decides no pose. -/
theorem SameEdges.getATformB (same : SameEdges s s') :
    s.getATformB a b = s'.getATformB a b := by
  by_cases valid : s.validateFrameTreeSnapshot = some .valid
  · have valid' := same.valid valid
    by_cases inside : a ∈ s ∧ b ∈ s
    · obtain ⟨-, -, r, tree⟩ := validateFrameTreeSnapshot_valid_iff.mp valid
      obtain ⟨es, climbA⟩ := tree a (parentOf_isSome.mpr inside.1)
      obtain ⟨fs, climbB⟩ := tree b (parentOf_isSome.mpr inside.2)
      rw [getATformB_of_climbs valid climbA climbB]
      rw [same.parentOf] at climbA climbB
      rw [getATformB_of_climbs valid' climbA climbB]
    · have outside : ¬ (a ∈ s' ∧ b ∈ s') := by
        rintro ⟨ha, hb⟩
        exact inside ⟨same.mem_keys.mpr ha, same.mem_keys.mpr hb⟩
      rw [getATformB_refused valid inside, getATformB_refused valid' outside]
  · rw [getATformB_of_not_valid valid, getATformB_of_not_valid (mt same.valid_iff.mpr valid)]

/-- What the order of accepted calls does not decide. -/
structure OrderFree (s s' : List Bool × FrameTreeSnapshot R) : Prop where
  accepted : ∀ added ∈ s'.1, added = true
  edges : s.2.SameEdges s'.2
  valid_iff : s.2.validateFrameTreeSnapshot = some .valid ↔
    s'.2.validateFrameTreeSnapshot = some .valid
  poses : ∀ a b, s.2.getATformB a b = s'.2.getATformB a b

/-- Calls that are accepted in one order are accepted in any, and leave a snapshot that
answers alike. -/
theorem addEdges_order (accepted : ∀ added ∈ (s.addEdges calls).1, added = true)
    (order : calls.Perm calls') : OrderFree (s.addEdges calls) (s.addEdges calls') := by
  have accepted' : ∀ added ∈ (s.addEdges calls').1, added = true := by
    obtain ⟨distinct, fresh⟩ := accepted_iff.mp accepted
    refine accepted_iff.mpr ⟨(order.map _).nodup_iff.mp distinct, fun call mem => ?_⟩
    exact fresh call (order.mem_iff.mpr mem)
  have same : (s.addEdges calls).2.SameEdges (s.addEdges calls').2 := by
    intro frame
    apply Option.ext
    intro edge
    rw [lookup_addEdges accepted, lookup_addEdges accepted']
    simp only [order.mem_iff]
  exact ⟨accepted', same, same.valid_iff, fun a b => same.getATformB⟩

/-- A hand on a body, the hand added first. -/
def handBeforeBody : List (EdgeCall ℤ) :=
  [⟨"body", "hand", ⟨⟨1, 2, 3⟩, ⟨0, 0, 1, 0⟩⟩⟩, ⟨"vision", "body", ⟨⟨4, 5, 6⟩, ⟨0, 1, 0, 0⟩⟩⟩,
    ⟨"", "vision", 1⟩]

theorem addEdges_order_handBeforeBody :
    OrderFree (addEdges ∅ handBeforeBody) (addEdges ∅ handBeforeBody.reverse) :=
  addEdges_order (by decide) (List.reverse_perm _).symm

/-- What `AddEdgeToFrameTree` does to a valid snapshot. -/
structure GrowsTree (s : FrameTreeSnapshot R) (parent child : String) (pose : SE3Pose R)
    (result : Bool × FrameTreeSnapshot R) : Prop where
  existing : child ∈ s → result = (false, s)
  added : child ∉ s → result.1 = true
  valid_iff : child ∉ s → (result.2.validateFrameTreeSnapshot = some .valid ↔
    child ≠ "" ∧ parent ∈ s)
  unmoved : child ∉ s → child ≠ "" → parent ∈ s → ∀ a b, a ∈ s → b ∈ s →
    result.2.getATformB a b = s.getATformB a b
  placed : child ∉ s → child ≠ "" → ∀ a aTp, s.getATformB a parent = some (some aTp) →
    result.2.getATformB a child = some (some (aTp * pose))

theorem addEdge_grows (valid : s.validateFrameTreeSnapshot = some .valid)
    (parent child : String) (pose : SE3Pose R) :
    GrowsTree s parent child pose (s.addEdgeToFrameTree parent child pose) := by
  obtain ⟨-, clean, r, tree⟩ := validateFrameTreeSnapshot_valid_iff.mp valid
  have climbOf {frame : String} (inside : frame ∈ s) :=
    tree frame (parentOf_isSome.mpr (AList.mem_keys.mp inside))
  constructor
  case existing => exact addEdge_old
  case added =>
    intro fresh
    rw [addEdge_new fresh]
  case valid_iff =>
    intro fresh
    rw [addEdge_new fresh]
    exact withLeaf_valid_iff valid fresh
  case unmoved =>
    intro fresh named below a b ha hb
    obtain ⟨es, climbA⟩ := climbOf ha
    obtain ⟨fs, climbB⟩ := climbOf hb
    rw [addEdge_new fresh, getATformB_of_climbs valid climbA climbB]
    exact getATformB_of_climbs ((withLeaf_valid_iff valid fresh).mpr ⟨named, below⟩)
      (withLeaf_climbs fresh climbA) (withLeaf_climbs fresh climbB)
  case placed =>
    intro fresh named a aTp found
    have inside : a ∈ s ∧ parent ∈ s := by
      by_contra outside
      rw [getATformB_refused valid outside] at found
      cases found
    have parentNamed : parent ≠ "" := by
      rintro rfl
      exact clean (AList.mem_keys.mp inside.2)
    obtain ⟨es, climbA⟩ := climbOf inside.1
    obtain ⟨fs, climbP⟩ := climbOf inside.2
    rw [getATformB_of_climbs valid climbA climbP] at found
    obtain rfl := Option.some.inj (Option.some.inj found)
    rw [addEdge_new fresh]
    refine (getATformB_of_climbs ((withLeaf_valid_iff valid fresh).mpr ⟨named, inside.2⟩)
      (withLeaf_climbs fresh climbA) (withLeaf_climbs_child fresh parentNamed climbP)).trans ?_
    rw [List.map_cons, accumulateTransforms_cons, ← mul_assoc]
    rfl

theorem addEdge_grows_gripper : GrowsTree handOnBody "hand" "gripper" ⟨⟨0, 0, 1⟩, 1⟩
    (handOnBody.addEdgeToFrameTree "hand" "gripper" ⟨⟨0, 0, 1⟩, 1⟩) :=
  addEdge_grows (by decide) "hand" "gripper" _

end FrameTreeSnapshot

end SpotSdk.Api
