import SpotSdk.Frames.FrameTree

/-!
# What validation of a frame tree decides

The search for the root ends from every frame. A snapshot is found valid exactly when
its parents form one rooted tree, and then the unchecked walk reads only entries that
exist.
-/

namespace SpotSdk.Api

open SpotSdk.Foundations Relation

variable {R : Type*}

namespace FrameTreeSnapshot

variable {snapshot : FrameTreeSnapshot R} {a b : String} {fuel : Nat} {seen : List String}

/-! ## The search for the root ends -/

/-- The visited frames are distinct and all but the current one are in the map, so the
search ends before it has made one step more than there are entries. -/
theorem findTreeRootFrom_isSome (distinct : (a :: seen).Nodup)
    (inside : ∀ f ∈ seen, f ∈ snapshot.keys) (enough : snapshot.keys.length < fuel + seen.length) :
    (snapshot.findTreeRootFrom fuel (a :: seen) a).isSome = true := by
  induction fuel generalizing a seen with
  | zero =>
      have bound := ((List.nodup_cons.mp distinct).2.subperm inside).length_le
      omega
  | succ fuel ih =>
      rw [findTreeRootFrom]
      cases lookup : snapshot.lookup a with
      | none => rfl
      | some edge =>
          have known : a ∈ snapshot.keys :=
            AList.mem_keys.mp (AList.lookup_isSome.mp (by rw [lookup]; rfl))
          simp only
          split
          · rfl
          · split
            · rfl
            · next unseen =>
              apply ih
              · exact List.nodup_cons.mpr ⟨unseen, distinct⟩
              · intro f hf
                cases hf with
                | head => exact known
                | tail _ earlier => exact inside f earlier
              · rw [List.length_cons]
                omega

theorem findTreeRoot_isSome (snapshot : FrameTreeSnapshot R) (leaf : String) :
    (snapshot.findTreeRoot leaf).isSome = true := by
  rw [findTreeRoot]
  split
  · rfl
  · apply findTreeRootFrom_isSome (List.nodup_singleton leaf)
    · intro f hf
      cases hf
    · simp

theorem validateFrom_isSome (snapshot : FrameTreeSnapshot R) (root : String)
    (frames : List String) : (snapshot.validateFrom root frames).isSome = true := by
  induction frames generalizing root with
  | nil => rfl
  | cons f rest ih =>
      obtain ⟨found, search⟩ := Option.isSome_iff_exists.mp (snapshot.findTreeRoot_isSome f)
      simp only [validateFrom, search]
      split_ifs
      · rfl
      · rfl
      · exact ih _
      · rfl
      · exact ih _

theorem validateFrameTreeSnapshot_isSome (snapshot : FrameTreeSnapshot R) :
    snapshot.validateFrameTreeSnapshot.isSome = true := by
  rw [validateFrameTreeSnapshot]
  split
  · rfl
  · exact snapshot.validateFrom_isSome "" snapshot.keys

/-! ## Rooted trees -/

/-- A frame names a parent. -/
def NamesParent (snapshot : FrameTreeSnapshot R) (frame parent : String) : Prop :=
  ∃ edge, snapshot.lookup frame = some edge ∧ edge.parentFrameName = parent ∧ parent ≠ ""

/-- The frames of a snapshot and the parents they name form one rooted tree. -/
structure IsRootedTree (snapshot : FrameTreeSnapshot R) : Prop where
  nonempty : snapshot.keys ≠ []
  named : "" ∉ snapshot.keys
  parentsKnown : ∀ frame parent, snapshot.NamesParent frame parent → parent ∈ snapshot.keys
  neverRepeats : ∀ frame ∈ snapshot.keys, ∀ above,
    ReflTransGen snapshot.NamesParent frame above →
      ¬ TransGen snapshot.NamesParent above above
  oneRoot : ∃ root ∈ snapshot.keys, (∀ parent, ¬ snapshot.NamesParent root parent) ∧
    ∀ frame ∈ snapshot.keys, ReflTransGen snapshot.NamesParent frame root

theorem isParent_iff : IsParent snapshot.parentOf a b ↔ snapshot.NamesParent a b := by
  simp only [IsParent, parentOf_up_iff, NamesParent]

theorem namesParent_eq (snapshot : FrameTreeSnapshot R) :
    snapshot.NamesParent = IsParent snapshot.parentOf := by
  ext a b
  exact isParent_iff.symm

/-- A frame of the map that names no parent is marked as a root. -/
theorem parentOf_root (ha : a ∈ snapshot.keys) (top : ∀ b, ¬ snapshot.NamesParent a b) :
    snapshot.parentOf a = some none := by
  obtain ⟨edge, lookup⟩ :=
    Option.isSome_iff_exists.mp (AList.lookup_isSome.mpr (AList.mem_keys.mpr ha))
  apply parentOf_root_iff.mpr
  refine ⟨edge, lookup, ?_⟩
  by_contra named
  exact top _ ⟨edge, lookup, rfl, named⟩

theorem IsRootedTree.hasRoot (tree : snapshot.IsRootedTree) :
    ∃ r, HasRoot snapshot.parentOf r := by
  obtain ⟨root, inside, top, reached⟩ := tree.oneRoot
  refine ⟨root, fun frame known => ?_⟩
  have path := reached frame (parentOf_isSome.mp known)
  rw [namesParent_eq] at path
  exact Climbs.exists_of_reaches path (parentOf_root inside top)

/-- When all frames climb to one root they form a rooted tree. -/
theorem isRootedTree_of_hasRoot {r : String} (nonempty : snapshot.keys ≠ [])
    (named : "" ∉ snapshot.keys) (tree : HasRoot snapshot.parentOf r) :
    snapshot.IsRootedTree := by
  have climbOf {frame : String} (inside : frame ∈ snapshot.keys) :=
    tree frame (parentOf_isSome.mpr inside)
  refine
    { nonempty := nonempty, named := named, parentsKnown := ?_, neverRepeats := ?_,
      oneRoot := ?_ }
  · intro frame parent names
    obtain ⟨e, step⟩ := isParent_iff.mpr names
    obtain ⟨es, climb⟩ := tree frame (by rw [step]; rfl)
    have above : parent ∈ es.map Prod.fst := climb.mem_of_above (.single ⟨e, step⟩)
    exact parentOf_isSome.mp (climb.known (List.mem_cons_of_mem _ above))
  · intro frame inside above path loop
    rw [namesParent_eq] at path loop
    obtain ⟨es, climb⟩ := climbOf inside
    cases reflTransGen_iff_eq_or_transGen.mp path with
    | inl same =>
        subst same
        exact climb.not_above_self loop
    | inr up =>
        obtain ⟨fs, climb', _⟩ := climb.of_mem (climb.mem_of_above up)
        exact climb'.not_above_self loop
  · obtain ⟨first, inside⟩ := List.exists_mem_of_ne_nil _ nonempty
    obtain ⟨es, climb⟩ := climbOf inside
    have top := climb.root_next
    refine ⟨r, parentOf_isSome.mp (by rw [top]; rfl), ?_, ?_⟩
    · intro parent names
      obtain ⟨e, step⟩ := isParent_iff.mpr names
      cases top.symm.trans step
    · intro frame known
      obtain ⟨fs, climb'⟩ := climbOf known
      rw [namesParent_eq]
      exact climb'.reaches

/-- What the checks of a snapshot promise. -/
structure ChecksTree (snapshot : FrameTreeSnapshot R) : Prop where
  searchEnds : ∀ leaf, (snapshot.findTreeRoot leaf).isSome = true
  valid_iff : snapshot.validateFrameTreeSnapshot = some .valid ↔ snapshot.IsRootedTree
  walks : snapshot.validateFrameTreeSnapshot = some .valid → ∀ frame ∈ snapshot.keys,
    ∃ es root, Climbs snapshot.parentOf frame es root ∧
      snapshot.walkTreeToRoot frame = some (es.map Prod.snd)

/-- Every search ends, exactly the rooted trees are valid, and in a valid snapshot the
unchecked walk from any frame returns the edges up to the root. -/
theorem checksTree (snapshot : FrameTreeSnapshot R) : snapshot.ChecksTree := by
  refine { searchEnds := snapshot.findTreeRoot_isSome, valid_iff := ?_, walks := ?_ }
  · rw [validateFrameTreeSnapshot_valid_iff]
    constructor
    · rintro ⟨nonempty, named, r, tree⟩
      exact isRootedTree_of_hasRoot nonempty named tree
    · intro tree
      exact ⟨tree.nonempty, tree.named, tree.hasRoot⟩
  · intro valid frame inside
    obtain ⟨_, _, root, tree⟩ := validateFrameTreeSnapshot_valid_iff.mp valid
    obtain ⟨es, climb⟩ := tree frame (parentOf_isSome.mpr inside)
    exact ⟨es, root, climb, walkTreeToRoot_of_climbs climb⟩

end FrameTreeSnapshot

end SpotSdk.Api
