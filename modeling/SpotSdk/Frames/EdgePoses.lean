import SpotSdk.Frames.FrameTree

/-!
# Setting the pose of existing edges

`SetPoseOnExistingEdge` takes an empty name as any frame. Its loop over the edges
looks each of them up by the name it was given and not by the key it is at, so a
nameless child ends the program unless the map has a frame without a name.
-/

namespace SpotSdk.Api

variable {R : Type*}

namespace FrameTreeSnapshot

/-- The loop of `SetPoseOnExistingEdge` over the keys of the map. The map's `at` ends
the program at a key that is absent. -/
def setPoseFrom (parentFrameName childFrameName : String) (pose : SE3Pose R) :
    List String → Bool → FrameTreeSnapshot R → Option (Bool × FrameTreeSnapshot R)
  | [], mutatedFrame, snapshot => some (mutatedFrame, snapshot)
  | frame :: rest, mutatedFrame, snapshot =>
      if childFrameName ≠ "" ∧ frame ≠ childFrameName then
        setPoseFrom parentFrameName childFrameName pose rest mutatedFrame snapshot
      else
        match snapshot.lookup childFrameName with
        | none => none
        | some parentEdge =>
            if parentFrameName ≠ "" ∧ parentEdge.parentFrameName ≠ parentFrameName then
              setPoseFrom parentFrameName childFrameName pose rest mutatedFrame snapshot
            else
              setPoseFrom parentFrameName childFrameName pose rest true
                (AList.insert childFrameName
                  { parentEdge with parentTformChild := some pose } snapshot)

/-- `SetPoseOnExistingEdge`: the returned flag and the snapshot it leaves. -/
def setPoseOnExistingEdge (parentFrameName childFrameName : String) (pose : SE3Pose R)
    (snapshot : FrameTreeSnapshot R) : Option (Bool × FrameTreeSnapshot R) :=
  setPoseFrom parentFrameName childFrameName pose snapshot.keys false snapshot

end FrameTreeSnapshot

open FrameTreeSnapshot

/-- A name that is given, or any name. -/
def MatchesName (pattern name : String) : Prop :=
  pattern = "" ∨ name = pattern

instance instDecidableMatchesName (pattern name : String) :
    Decidable (MatchesName pattern name) :=
  inferInstanceAs (Decidable (_ ∨ _))

/-- The edge with the pose. -/
def ParentEdge.withPose (edge : ParentEdge R) (pose : SE3Pose R) : ParentEdge R :=
  { edge with parentTformChild := some pose }

/-- The edges that match get the pose, and nothing else changes. -/
structure SetsPose (parent child : String) (pose : SE3Pose R) (snapshot : FrameTreeSnapshot R)
    (result : Bool × FrameTreeSnapshot R) : Prop where
  matching : ∀ frame edge, snapshot.lookup frame = some edge →
    MatchesName child frame → MatchesName parent edge.parentFrameName →
      result.2.lookup frame = some (edge.withPose pose)
  others : ∀ frame edge, snapshot.lookup frame = some edge →
    ¬ (MatchesName child frame ∧ MatchesName parent edge.parentFrameName) →
      result.2.lookup frame = some edge
  frames : ∀ frame, frame ∈ result.2 ↔ frame ∈ snapshot
  returned : result.1 = true ↔ ∃ frame edge, snapshot.lookup frame = some edge ∧
    MatchesName child frame ∧ MatchesName parent edge.parentFrameName

section Loop

variable {parent child : String} {pose : SE3Pose R} {snapshot : FrameTreeSnapshot R}
  {edge : ParentEdge R} {keys : List String} {mutated : Bool}

theorem setPoseFrom_skip (none : ∀ key ∈ keys, ¬ MatchesName child key) :
    setPoseFrom parent child pose keys mutated snapshot = some (mutated, snapshot) := by
  induction keys with
  | nil => rfl
  | cons key rest ih =>
      have skipped : child ≠ "" ∧ key ≠ child := not_or.mp (none key List.mem_cons_self)
      rw [setPoseFrom, if_pos skipped]
      exact ih fun key' later => none key' (List.mem_cons_of_mem _ later)

/-- A name that is visited, but not first, is visited later. -/
theorem matchesName_tail {key : String} (visited : ∃ key' ∈ key :: keys, MatchesName child key')
    (first : ¬MatchesName child key) : ∃ key' ∈ keys, MatchesName child key' := by
  obtain ⟨key', inside, found⟩ := visited
  cases inside with
  | head => exact absurd found first
  | tail _ later => exact ⟨key', later, found⟩

/-- A visited key with no edge under the given name ends the program. -/
theorem setPoseFrom_abort (parent : String) (pose : SE3Pose R) (mutated : Bool)
    (absent : snapshot.lookup child = none)
    (visited : ∃ key ∈ keys, MatchesName child key) :
    setPoseFrom parent child pose keys mutated snapshot = none := by
  induction keys with
  | nil =>
      obtain ⟨key, inside, _⟩ := visited
      cases inside
  | cons key rest ih =>
      rw [setPoseFrom]
      by_cases here : MatchesName child key
      · have kept : ¬ (child ≠ "" ∧ key ≠ child) := fun skipped => not_or.mpr skipped here
        rw [if_neg kept, absent]
      · rw [if_pos (not_or.mp here)]
        exact ih (matchesName_tail visited here)

theorem setPoseFrom_mismatch (pose : SE3Pose R) (keys : List String) (mutated : Bool)
    (lookup : snapshot.lookup child = some edge)
    (differs : ¬ MatchesName parent edge.parentFrameName) :
    setPoseFrom parent child pose keys mutated snapshot = some (mutated, snapshot) := by
  induction keys with
  | nil => rfl
  | cons key rest ih =>
      have skipped : parent ≠ "" ∧ edge.parentFrameName ≠ parent := not_or.mp differs
      rw [setPoseFrom, lookup]
      simp only [if_pos skipped, ih, ite_self]

/-- Setting the pose again changes nothing. -/
theorem setPoseFrom_again (keys : List String)
    (lookup : snapshot.lookup child = some (edge.withPose pose))
    (same : MatchesName parent edge.parentFrameName) :
    ∃ after, setPoseFrom parent child pose keys true snapshot = some (true, after) ∧
      ∀ frame, after.lookup frame = snapshot.lookup frame := by
  induction keys generalizing snapshot with
  | nil => exact ⟨snapshot, rfl, fun _ => rfl⟩
  | cons key rest ih =>
      have kept : ¬ (parent ≠ "" ∧ (edge.withPose pose).parentFrameName ≠ parent) :=
        fun differs => not_or.mpr differs same
      rw [setPoseFrom, lookup]
      simp only [if_neg kept]
      split
      · exact ih lookup
      · obtain ⟨after, result, lookups⟩ := ih (AList.lookup_insert (a := child) snapshot)
        refine ⟨after, result, fun frame => ?_⟩
        rw [lookups frame]
        by_cases here : frame = child
        · rw [here, AList.lookup_insert, lookup]
        · exact AList.lookup_insert_ne here

/-- The first visited key sets the pose of the edge under the given name. -/
theorem setPoseFrom_found (pose : SE3Pose R) (mutated : Bool)
    (lookup : snapshot.lookup child = some edge)
    (same : MatchesName parent edge.parentFrameName)
    (visited : ∃ key ∈ keys, MatchesName child key) :
    ∃ after, setPoseFrom parent child pose keys mutated snapshot = some (true, after) ∧
      after.lookup child = some (edge.withPose pose) ∧
      ∀ frame, frame ≠ child → after.lookup frame = snapshot.lookup frame := by
  induction keys with
  | nil =>
      obtain ⟨key, inside, _⟩ := visited
      cases inside
  | cons key rest ih =>
      have kept : ¬ (parent ≠ "" ∧ edge.parentFrameName ≠ parent) :=
        fun differs => not_or.mpr differs same
      rw [setPoseFrom]
      by_cases here : MatchesName child key
      · have reached : ¬ (child ≠ "" ∧ key ≠ child) := fun skipped => not_or.mpr skipped here
        rw [if_neg reached, lookup]
        simp only [if_neg kept]
        obtain ⟨after, result, lookups⟩ := setPoseFrom_again rest
          (AList.lookup_insert (a := child) (b := edge.withPose pose) snapshot) same
        refine ⟨after, result, ?_, fun frame other => ?_⟩
        · rw [lookups, AList.lookup_insert]
        · rw [lookups, AList.lookup_insert_ne other]
      · rw [if_pos (not_or.mp here)]
        exact ih (matchesName_tail visited here)

end Loop

section Result

variable {parent child : String} {pose : SE3Pose R} {snapshot after : FrameTreeSnapshot R}
  {edge : ParentEdge R}

theorem mem_iff_of_lookups (lookup : snapshot.lookup child = some edge)
    (set : after.lookup child = some (edge.withPose pose))
    (rest : ∀ frame, frame ≠ child → after.lookup frame = snapshot.lookup frame)
    (frame : String) : frame ∈ after ↔ frame ∈ snapshot := by
  rw [← AList.lookup_isSome, ← AList.lookup_isSome]
  by_cases here : frame = child
  · rw [here, set, lookup]
    rfl
  · rw [rest frame here]

/-- An unchanged snapshot and a false flag are right when no edge matches. -/
theorem setsPose_unchanged_iff :
    SetsPose parent child pose snapshot (false, snapshot) ↔
      ∀ frame edge, snapshot.lookup frame = some edge →
        ¬ (MatchesName child frame ∧ MatchesName parent edge.parentFrameName) := by
  constructor
  · intro sets frame edge lookup both
    exact Bool.false_ne_true (sets.returned.mpr ⟨frame, edge, lookup, both⟩)
  · intro none
    constructor
    case matching =>
      intro frame edge lookup hchild hparent
      exact absurd ⟨hchild, hparent⟩ (none frame edge lookup)
    case others => exact fun frame edge lookup _ => lookup
    case frames => exact fun frame => Iff.rfl
    case returned =>
      apply iff_of_false Bool.false_ne_true
      rintro ⟨frame, edge, lookup, both⟩
      exact none frame edge lookup both

/-- A snapshot with one edge set and a true flag are right when every other edge that
matches has the pose already. -/
theorem setsPose_one_iff (lookup : snapshot.lookup child = some edge)
    (same : MatchesName parent edge.parentFrameName)
    (set : after.lookup child = some (edge.withPose pose))
    (rest : ∀ frame, frame ≠ child → after.lookup frame = snapshot.lookup frame) :
    SetsPose parent child pose snapshot (true, after) ↔
      ∀ frame edge, snapshot.lookup frame = some edge → frame ≠ child →
        MatchesName child frame → MatchesName parent edge.parentFrameName →
          edge.parentTformChild = some pose := by
  constructor
  · intro sets frame edge' lookup' other hchild hparent
    have posed := sets.matching frame edge' lookup' hchild hparent
    rw [rest frame other, lookup'] at posed
    exact congrArg ParentEdge.parentTformChild (Option.some.inj posed)
  · intro already
    constructor
    case matching =>
      intro frame edge' lookup' hchild hparent
      by_cases here : frame = child
      · subst here
        obtain rfl := Option.some.inj (lookup.symm.trans lookup')
        exact set
      · rw [rest frame here, lookup', ParentEdge.withPose,
          ← already frame edge' lookup' here hchild hparent]
    case others =>
      intro frame edge' lookup' differs
      by_cases here : frame = child
      · subst here
        obtain rfl := Option.some.inj (lookup.symm.trans lookup')
        exact absurd ⟨.inr rfl, same⟩ differs
      · rw [rest frame here, lookup']
    case frames => exact mem_iff_of_lookups lookup set rest
    case returned => exact iff_of_true rfl ⟨child, edge, lookup, .inr rfl, same⟩

/-- With the name of a child at most one edge matches, and it gets the pose. -/
theorem setPoseOnExistingEdge_named (named : child ≠ "") :
    ∃ result, setPoseOnExistingEdge parent child pose snapshot = some result ∧
      SetsPose parent child pose snapshot result := by
  have only {frame : String} (hchild : MatchesName child frame) : frame = child :=
    hchild.resolve_left named
  cases lookup : snapshot.lookup child with
  | none =>
      have unmet : ∀ key ∈ snapshot.keys, ¬ MatchesName child key := by
        intro key inside hchild
        rw [only hchild] at inside
        exact AList.lookup_eq_none.mp lookup (AList.mem_keys.mpr inside)
      refine ⟨_, setPoseFrom_skip unmet, setsPose_unchanged_iff.mpr ?_⟩
      intro frame edge lookup' both
      rw [only both.1, lookup] at lookup'
      cases lookup'
  | some edge =>
      by_cases same : MatchesName parent edge.parentFrameName
      · have visited : ∃ key ∈ snapshot.keys, MatchesName child key :=
          ⟨child, AList.mem_keys.mp (AList.lookup_isSome.mp (by rw [lookup]; rfl)), .inr rfl⟩
        obtain ⟨after, result, set, rest⟩ := setPoseFrom_found pose false lookup same
          visited
        refine ⟨_, result, (setsPose_one_iff lookup same set rest).mpr ?_⟩
        intro frame edge' _ other hchild _
        exact absurd (only hchild) other
      · refine ⟨_, setPoseFrom_mismatch pose snapshot.keys false lookup same,
          setsPose_unchanged_iff.mpr ?_⟩
        intro frame edge' lookup' both
        rw [only both.1, lookup] at lookup'
        obtain rfl := Option.some.inj lookup'
        exact same both.2

/-- There is a frame without a name, and its edge is the only one that may have to
change. -/
structure OnlyNameless (parent : String) (pose : SE3Pose R) (snapshot : FrameTreeSnapshot R) :
    Prop where
  inside : "" ∈ snapshot
  others : ∀ frame edge, snapshot.lookup frame = some edge → frame ≠ "" →
    MatchesName parent edge.parentFrameName →
      edge.parentTformChild = some pose ∧ ∃ nameless, snapshot.lookup "" = some nameless ∧
        MatchesName parent nameless.parentFrameName

theorem setPoseOnExistingEdge_nameless (inside : "" ∈ snapshot) :
    (∃ result, setPoseOnExistingEdge parent "" pose snapshot = some result ∧
        SetsPose parent "" pose snapshot result) ↔ OnlyNameless parent pose snapshot := by
  obtain ⟨nameless, lookup⟩ := Option.isSome_iff_exists.mp (AList.lookup_isSome.mpr inside)
  have all (frame : String) : MatchesName "" frame := .inl rfl
  by_cases same : MatchesName parent nameless.parentFrameName
  · obtain ⟨after, result, set, rest⟩ := setPoseFrom_found pose false lookup same
      ⟨"", AList.mem_keys.mp inside, all ""⟩
    have one := setsPose_one_iff lookup same set rest
    constructor
    · rintro ⟨result', returned, sets⟩
      obtain rfl := Option.some.inj (result.symm.trans returned)
      refine ⟨inside, fun frame edge lookup' other hparent => ⟨?_, nameless, lookup, same⟩⟩
      exact one.mp sets frame edge lookup' other (all frame) hparent
    · intro only
      refine ⟨_, result, one.mpr fun frame edge lookup' other _ hparent => ?_⟩
      exact (only.others frame edge lookup' other hparent).1
  · have result := setPoseFrom_mismatch pose snapshot.keys false lookup same
    constructor
    · rintro ⟨result', returned, sets⟩
      obtain rfl := Option.some.inj (result.symm.trans returned)
      refine ⟨inside, fun frame edge lookup' _ hparent => ?_⟩
      exact absurd ⟨all frame, hparent⟩ (setsPose_unchanged_iff.mp sets frame edge lookup')
    · intro only
      refine ⟨_, result, setsPose_unchanged_iff.mpr ?_⟩
      rintro frame edge lookup' ⟨_, hparent⟩
      by_cases here : frame = ""
      · rw [here, lookup] at lookup'
        obtain rfl := Option.some.inj lookup'
        exact same hparent
      · obtain ⟨-, nameless', lookup'', hparent'⟩ :=
          only.others frame edge lookup' here hparent
        obtain rfl := Option.some.inj (lookup.symm.trans lookup'')
        exact same hparent'

/-- The function sets the poses of exactly the edges that match when the child is named,
when there are no edges, and when only the nameless frame would have to change. -/
theorem setsPose_iff :
    (∃ result, setPoseOnExistingEdge parent child pose snapshot = some result ∧
        SetsPose parent child pose snapshot result) ↔
      child ≠ "" ∨ snapshot.keys = [] ∨ OnlyNameless parent pose snapshot := by
  by_cases named : child = ""
  · subst named
    simp only [ne_eq, not_true_eq_false, false_or]
    by_cases inside : "" ∈ snapshot
    · have nonempty : snapshot.keys ≠ [] := List.ne_nil_of_mem (AList.mem_keys.mp inside)
      rw [setPoseOnExistingEdge_nameless inside, or_iff_right nonempty]
    · have absent : snapshot.lookup "" = none := AList.lookup_eq_none.mpr inside
      constructor
      · rintro ⟨result, returned, _⟩
        left
        by_contra nonempty
        obtain ⟨key, visited⟩ := List.exists_mem_of_ne_nil _ nonempty
        have aborted := setPoseFrom_abort parent pose false absent
          ⟨key, visited, .inl rfl⟩
        cases aborted.symm.trans returned
      · rintro (empty | only)
        · have unmet : ∀ key ∈ snapshot.keys, ¬ MatchesName "" key := by
            rw [empty]
            exact fun key visited => absurd visited List.not_mem_nil
          refine ⟨_, setPoseFrom_skip unmet, setsPose_unchanged_iff.mpr ?_⟩
          intro frame edge lookup both
          have known := AList.mem_keys.mp (AList.lookup_isSome.mp (by rw [lookup]; rfl))
          exact unmet frame known both.1
        · exact absurd only.inside inside
  · exact iff_of_true (setPoseOnExistingEdge_named named) (.inl named)

end Result

/-- A tree of one frame, for which any child is asked. -/
theorem not_setsPose_anyChild :
    setPoseOnExistingEdge "" "" (1 : SE3Pose ℤ) (AList.singleton "body" {}) = none ∧
      ¬ ∀ (parent child : String) (pose : SE3Pose ℤ) (snapshot : FrameTreeSnapshot ℤ),
        ∃ result, setPoseOnExistingEdge parent child pose snapshot = some result ∧
          SetsPose parent child pose snapshot result := by
  have aborted : setPoseOnExistingEdge "" "" (1 : SE3Pose ℤ)
      (AList.singleton "body" {}) = none := rfl
  refine ⟨aborted, fun all => ?_⟩
  obtain ⟨result, returned, _⟩ := all "" "" 1 (AList.singleton "body" {})
  cases aborted.symm.trans returned

end SpotSdk.Api
