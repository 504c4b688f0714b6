import Mathlib.Data.List.AList
import SpotSdk.Foundations.ParentForest
import SpotSdk.Frames.Poses

/-!
# Frame tree snapshots

A snapshot maps each frame to the edge to its parent; the root has an empty parent
name. The order of the entries is the order in which the map is iterated. The loops
that follow parents get one more step of fuel than the map has entries, and are absent
when that does not end them.
-/

namespace SpotSdk.Api

open SpotSdk.Foundations

variable {R : Type*}

/-- `FrameTreeSnapshot::ParentEdge`. The pose is a message that may be unset. -/
structure ParentEdge (R : Type*) where
  parentFrameName : String := ""
  parentTformChild : Option (SE3Pose R) := none
  deriving DecidableEq, Repr

/-- `child_to_parent_edge_map`. -/
abbrev FrameTreeSnapshot (R : Type*) := AList fun _ : String => ParentEdge R

inductive ValidateFrameTreeSnapshotStatus
  | valid
  | empty
  | cycle
  | disjoint
  | emptyChildFrameName
  | unknownParentFrameName
  deriving DecidableEq, Repr

namespace FrameTreeSnapshot

variable (snapshot : FrameTreeSnapshot R)

def isFrameInTree (frame : String) : Bool :=
  (snapshot.lookup frame).isSome

/-- The loop of `FindTreeRoot`: a status, and the root when it is stored. -/
def findTreeRootFrom : Nat → List String → String →
    Option (ValidateFrameTreeSnapshotStatus × Option String)
  | 0, _, _ => none
  | fuel + 1, visited, curFrameName =>
      match snapshot.lookup curFrameName with
      | none => some (.unknownParentFrameName, none)
      | some parentEdge =>
          if parentEdge.parentFrameName = "" then some (.valid, some curFrameName)
          else if parentEdge.parentFrameName ∈ visited then some (.cycle, none)
          else
            findTreeRootFrom fuel (parentEdge.parentFrameName :: visited)
              parentEdge.parentFrameName

/-- `FindTreeRoot`. -/
def findTreeRoot (leafFrameName : String) :
    Option (ValidateFrameTreeSnapshotStatus × Option String) :=
  if leafFrameName = "" then some (.emptyChildFrameName, none)
  else snapshot.findTreeRootFrom (snapshot.keys.length + 1) [leafFrameName] leafFrameName

/-- The loop of `ValidateFrameTreeSnapshot`, with the root found so far. -/
def validateFrom (rootFrameName : String) :
    List String → Option ValidateFrameTreeSnapshotStatus
  | [] => some .valid
  | frame :: rest =>
      if frame = "" then some .emptyChildFrameName
      else
        match snapshot.findTreeRoot frame with
        | none => none
        | some (status, found) =>
            let curRootFrameName := found.getD ""
            if status ≠ .valid then some status
            else if rootFrameName = "" then validateFrom curRootFrameName rest
            else if rootFrameName ≠ curRootFrameName then some .disjoint
            else validateFrom rootFrameName rest

/-- `ValidateFrameTreeSnapshot`. -/
def validateFrameTreeSnapshot : Option ValidateFrameTreeSnapshotStatus :=
  if snapshot.keys.isEmpty then some .empty
  else snapshot.validateFrom "" snapshot.keys

/-- The loop of `walk_tree_to_root`, also absent when it reads past the map. -/
def walkFrom : Nat → String → Option (List (ParentEdge R))
  | 0, _ => none
  | fuel + 1, curFrame =>
      match snapshot.lookup curFrame with
      | none => none
      | some parentEdge =>
          if parentEdge.parentFrameName = "" then some []
          else (walkFrom fuel parentEdge.parentFrameName).map (parentEdge :: ·)

def walkTreeToRoot (leafFrameName : String) : Option (List (ParentEdge R)) :=
  snapshot.walkFrom (snapshot.keys.length + 1) leafFrameName

end FrameTreeSnapshot

section Transforms

variable [CommRing R]

/-- `parent_tform_child()` of an edge, the default pose when it is unset. -/
def ParentEdge.tform (edge : ParentEdge R) : SE3Pose R :=
  edge.parentTformChild.getD default

/-- `accumulate_transforms`. -/
def accumulateTransforms (pathToRoot : List (ParentEdge R)) : SE3Pose R :=
  pathToRoot.foldl (fun ret parentEdge => parentEdge.tform * ret) 1

/-- `get_a_tform_b` with a place for the pose: the pose, or nothing when it returns
false. Absent when a walk has no result. -/
def FrameTreeSnapshot.getATformB (snapshot : FrameTreeSnapshot R) (frameA frameB : String) :
    Option (Option (SE3Pose R)) :=
  match snapshot.validateFrameTreeSnapshot with
  | none => none
  | some status =>
      if status ≠ .valid then some none
      else if !snapshot.isFrameInTree frameA then some none
      else if !snapshot.isFrameInTree frameB then some none
      else
        match snapshot.walkTreeToRoot frameA, snapshot.walkTreeToRoot frameB with
        | some inverseEdges, some forwardEdges =>
            some (some (~~~accumulateTransforms inverseEdges *
              accumulateTransforms forwardEdges))
        | _, _ => none

@[simp] theorem accumulateTransforms_snoc (path : List (ParentEdge R)) (edge : ParentEdge R) :
    accumulateTransforms (path ++ [edge]) = edge.tform * accumulateTransforms path := by
  simp [accumulateTransforms]

end Transforms

/-! ## Snapshots as forests -/

/-- The parent that an edge names, with the edge. -/
def ParentEdge.above (edge : ParentEdge R) : Option (String × ParentEdge R) :=
  if edge.parentFrameName = "" then none else some (edge.parentFrameName, edge)

namespace FrameTreeSnapshot

/-- The parents of a snapshot as a forest. -/
def parentOf (snapshot : FrameTreeSnapshot R) (frame : String) :
    Option (Option (String × ParentEdge R)) :=
  (snapshot.lookup frame).map ParentEdge.above

variable {snapshot : FrameTreeSnapshot R} {a b r : String} {edge : ParentEdge R}
  {es : List (String × ParentEdge R)} {fuel : Nat} {visited : List String}
  {found : Option String}

theorem parentOf_isSome : (snapshot.parentOf a).isSome = true ↔ a ∈ snapshot.keys := by
  rw [parentOf, Option.isSome_map, AList.lookup_isSome, AList.mem_keys]

theorem parentOf_root_iff : snapshot.parentOf a = some none ↔
    ∃ edge, snapshot.lookup a = some edge ∧ edge.parentFrameName = "" := by
  simp [parentOf, ParentEdge.above]

theorem parentOf_up_iff : snapshot.parentOf a = some (some (b, edge)) ↔
    snapshot.lookup a = some edge ∧ edge.parentFrameName = b ∧ b ≠ "" := by
  simp only [parentOf, ParentEdge.above, Option.map_eq_some_iff]
  constructor
  · rintro ⟨edge', lookup, above⟩
    split at above
    · cases above
    · next named =>
      obtain ⟨rfl, rfl⟩ := Prod.mk.inj (Option.some.inj above)
      exact ⟨lookup, rfl, named⟩
  · rintro ⟨lookup, rfl, named⟩
    exact ⟨edge, lookup, if_neg named⟩

theorem climbs_ne_empty (climb : Climbs snapshot.parentOf a es r) (ha : a ≠ "") : r ≠ "" := by
  induction climb with
  | root => exact ha
  | up h _ ih => exact ih (parentOf_up_iff.mp h).2.2

/-- A root that was found is the end of the climb. -/
theorem climbs_of_findTreeRootFrom
    (h : snapshot.findTreeRootFrom fuel visited a = some (.valid, found)) :
    ∃ es r, Climbs snapshot.parentOf a es r ∧ found = some r := by
  induction fuel generalizing visited a with
  | zero => cases h
  | succ fuel ih =>
      rw [findTreeRootFrom] at h
      cases lookup : snapshot.lookup a with
      | none => simp [lookup] at h
      | some edge =>
          simp only [lookup] at h
          split at h
          · next named =>
            obtain ⟨-, rfl⟩ := Prod.mk.inj (Option.some.inj h)
            exact ⟨[], a, .root (parentOf_root_iff.mpr ⟨edge, lookup, named⟩), rfl⟩
          · next named =>
            split at h
            · cases h
            · obtain ⟨es, r, climb, rfl⟩ := ih h
              exact ⟨_, r, .up (parentOf_up_iff.mpr ⟨lookup, rfl, named⟩) climb, rfl⟩

/-- A climb is followed to its root when the fuel lasts. -/
theorem findTreeRootFrom_of_climbs (climb : Climbs snapshot.parentOf a es r)
    (fresh : ∀ b ∈ es.map Prod.fst, b ∉ visited) (enough : es.length < fuel) :
    snapshot.findTreeRootFrom fuel visited a = some (.valid, some r) := by
  induction climb generalizing visited fuel with
  | root h =>
      obtain ⟨edge, lookup, named⟩ := parentOf_root_iff.mp h
      cases fuel with
      | zero => cases enough
      | succ fuel => simp [findTreeRootFrom, lookup, named]
  | @up a b edge es r h tail ih =>
      obtain ⟨lookup, rfl, named⟩ := parentOf_up_iff.mp h
      cases fuel with
      | zero => cases enough
      | succ fuel =>
          have unseen := fresh _ List.mem_cons_self
          rw [findTreeRootFrom]
          simp only [lookup, named, unseen, if_false]
          refine ih (fun b hb => ?_) (Nat.lt_of_succ_lt_succ enough)
          rw [List.mem_cons, not_or]
          refine ⟨?_, fresh b (List.mem_cons_of_mem _ hb)⟩
          rintro rfl
          exact (List.nodup_cons.mp tail.nodup).1 hb

theorem climbs_length_lt (climb : Climbs snapshot.parentOf a es r) :
    es.length < snapshot.keys.length + 1 :=
  Nat.lt_succ_of_lt (climb.length_lt fun _ => parentOf_isSome.mp)

theorem findTreeRoot_valid_iff (ha : a ≠ "") :
    snapshot.findTreeRoot a = some (.valid, found) ↔
      ∃ es r, Climbs snapshot.parentOf a es r ∧ found = some r := by
  rw [findTreeRoot, if_neg ha]
  constructor
  · exact climbs_of_findTreeRootFrom
  · rintro ⟨es, r, climb, rfl⟩
    refine findTreeRootFrom_of_climbs climb (fun b hb => ?_) (climbs_length_lt climb)
    rw [List.mem_singleton]
    rintro rfl
    exact (List.nodup_cons.mp climb.nodup).1 hb

theorem validateFrom_valid_iff {root : String} {frames : List String} :
    snapshot.validateFrom root frames = some .valid ↔
      "" ∉ frames ∧ ∃ r, (root ≠ "" → r = root) ∧
        ∀ f ∈ frames, ∃ es, Climbs snapshot.parentOf f es r := by
  induction frames generalizing root with
  | nil =>
      refine ⟨fun _ => ?_, fun _ => rfl⟩
      exact ⟨List.not_mem_nil, root, fun _ => rfl, fun f hf => absurd hf List.not_mem_nil⟩
  | cons f rest ih =>
      rw [validateFrom]
      by_cases named : f = ""
      · simp [named]
      rw [if_neg named]
      constructor
      · intro h
        cases search : snapshot.findTreeRoot f with
        | none => simp [search] at h
        | some result =>
            obtain ⟨status, found⟩ := result
            simp only [search] at h
            split at h
            · next bad => exact absurd (Option.some.inj h) bad
            · next good =>
              obtain rfl := not_not.mp good
              obtain ⟨es, cur, climb, rfl⟩ := (findTreeRoot_valid_iff named).mp search
              -- The first frame sets the root, the others have to agree with it.
              have checked : (root ≠ "" → cur = root) ∧
                  snapshot.validateFrom cur rest = some .valid := by
                simp only [Option.getD_some] at h
                split at h
                · next first => exact ⟨fun again => absurd first again, h⟩
                · split at h
                  · cases h
                  · next same =>
                    obtain rfl := not_not.mp same
                    exact ⟨fun _ => rfl, h⟩
              obtain ⟨clean, r, same, climbs⟩ := ih.mp checked.2
              obtain rfl := same (climbs_ne_empty climb named)
              refine ⟨?_, r, checked.1, ?_⟩
              · simp [clean, Ne.symm named]
              · intro g hg
                cases hg with
                | head => exact ⟨es, climb⟩
                | tail _ later => exact climbs g later
      · rintro ⟨clean, r, same, climbs⟩
        obtain ⟨es, climb⟩ := climbs f List.mem_cons_self
        have search := (findTreeRoot_valid_iff named).mpr ⟨es, r, climb, rfl⟩
        have more : snapshot.validateFrom r rest = some .valid :=
          ih.mpr ⟨fun h => clean (List.mem_cons_of_mem _ h), r, fun _ => rfl,
            fun g hg => climbs g (List.mem_cons_of_mem _ hg)⟩
        by_cases first : root = ""
        · simp [search, first, more]
        · simp [search, ← same first, more]

/-- A snapshot is valid exactly when it has frames, none of them nameless, and they
all climb to one root. -/
theorem validateFrameTreeSnapshot_valid_iff :
    snapshot.validateFrameTreeSnapshot = some .valid ↔
      snapshot.keys ≠ [] ∧ "" ∉ snapshot.keys ∧ ∃ r, HasRoot snapshot.parentOf r := by
  rw [validateFrameTreeSnapshot]
  cases keys : snapshot.keys.isEmpty with
  | true => simp [List.isEmpty_iff.mp keys]
  | false =>
      rw [if_neg (by simp), validateFrom_valid_iff]
      have nonempty : snapshot.keys ≠ [] := by simpa using keys
      simp [nonempty, HasRoot, parentOf_isSome]

/-- A frame that is its own parent makes a snapshot invalid. -/
theorem not_valid_of_loop (loop : snapshot.lookup a = some edge)
    (self : edge.parentFrameName = a) (named : a ≠ "") :
    snapshot.validateFrameTreeSnapshot ≠ some .valid := by
  intro valid
  obtain ⟨-, -, r, tree⟩ := validateFrameTreeSnapshot_valid_iff.mp valid
  have up := parentOf_up_iff.mpr ⟨loop, self, named⟩
  obtain ⟨es, climb⟩ := tree a (by rw [up]; rfl)
  exact Climbs.not_of_loop up climb

/-- The unchecked walk returns the edges of the climb. -/
theorem walkFrom_of_climbs (climb : Climbs snapshot.parentOf a es r)
    (enough : es.length < fuel) : snapshot.walkFrom fuel a = some (es.map Prod.snd) := by
  induction climb generalizing fuel with
  | root h =>
      obtain ⟨edge, lookup, named⟩ := parentOf_root_iff.mp h
      cases fuel with
      | zero => cases enough
      | succ fuel => simp [walkFrom, lookup, named]
  | up h _ ih =>
      obtain ⟨lookup, rfl, named⟩ := parentOf_up_iff.mp h
      cases fuel with
      | zero => cases enough
      | succ fuel =>
          simp [walkFrom, lookup, named, ih (Nat.lt_of_succ_lt_succ enough)]

theorem walkTreeToRoot_of_climbs (climb : Climbs snapshot.parentOf a es r) :
    snapshot.walkTreeToRoot a = some (es.map Prod.snd) :=
  walkFrom_of_climbs climb (climbs_length_lt climb)

/-- In a valid snapshot the transform goes up from the one frame and down to the
other. -/
theorem getATformB_of_climbs [CommRing R] {r' : String} {fs : List (String × ParentEdge R)}
    (valid : snapshot.validateFrameTreeSnapshot = some .valid)
    (climbA : Climbs snapshot.parentOf a es r) (climbB : Climbs snapshot.parentOf b fs r') :
    snapshot.getATformB a b = some (some (~~~accumulateTransforms (es.map Prod.snd) *
      accumulateTransforms (fs.map Prod.snd))) := by
  have inTree {f gs q} (climb : Climbs snapshot.parentOf f gs q) :
      snapshot.isFrameInTree f = true := by
    have known := climb.known List.mem_cons_self
    rwa [parentOf, Option.isSome_map] at known
  rw [getATformB, valid, walkTreeToRoot_of_climbs climbA, walkTreeToRoot_of_climbs climbB]
  simp [inTree climbA, inTree climbB]

end FrameTreeSnapshot

end SpotSdk.Api
